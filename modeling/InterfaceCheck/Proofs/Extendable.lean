import InterfaceCheck.Base.Verdict

namespace InterfaceCheck

/-- The least set that holds every object, and every intersection of at least one part whose parts it
holds. -/
inductive Extendable : Ty → Prop
  | object (ms f) : Extendable ⟨.object ms, f⟩
  | intersection (ts f) (nonempty : ts ≠ []) (parts : ∀ t ∈ ts, Extendable t) :
      Extendable ⟨.intersection ts, f⟩

namespace Ty

/-- What is wrong with a node that is neither an object nor an intersection with parts. -/
def offence? : Ty → Option Offence
  | ⟨.object _, _⟩ => none
  | ⟨.intersection [], _⟩ => some .emptyIntersection
  | ⟨.intersection (_ :: _), _⟩ => none
  | ⟨.union _, _⟩ => some .union
  | ⟨.primitive _, _⟩ => some .primitive
  | ⟨.param _, _⟩ => some .typeParam
  | ⟨.array _, _⟩ => some .array
  | ⟨.function _ _, _⟩ => some .function

def partAt? : Ty → List Nat → Option Ty
  | t, [] => some t
  | ⟨.intersection ts, _⟩, i :: p =>
    match ts[i]? with
    | some t => partAt? t p
    | none => none
  | _, _ :: _ => none
termination_by structural _ p => p

/-- The way down to the node at fault: every intersection is left through its first rejected part. -/
inductive Blames : Ty → Rejection → Prop
  | here (t o) (fault : t.offence? = some o) : Blames t ⟨t, o, []⟩
  | part (ts f k t r) (found : ts[k]? = some t) (left : ∀ u ∈ ts.take k, u.verdict = .accepted)
      (blames : Blames t r) : Blames ⟨.intersection ts, f⟩ ⟨r.offending, r.offence, k :: r.path⟩

/-- The rejection names the node at fault whose path comes first in the lexicographic order. -/
structure FirstOffence (t : Ty) (r : Rejection) : Prop where
  reached : t.partAt? r.path = some r.offending
  fault : r.offending.offence? = some r.offence
  least : ∀ q u, t.partAt? q = some u → u.offence?.isSome → r.path = q ∨ List.Lex (· < ·) r.path q
  left : ∀ p i q, r.path = p ++ i :: q → ∀ j < i,
    ∃ u, t.partAt? (p ++ [j]) = some u ∧ u.verdict = .accepted

theorem verdict_of_offence {t : Ty} {o : Offence} (h : t.offence? = some o) :
    t.verdict = .rejected ⟨t, o, []⟩ := by
  rcases t with ⟨s, f⟩
  cases s with
  | object ms => simp [offence?] at h
  | intersection ts =>
      cases ts with
      | nil => obtain rfl : .emptyIntersection = o := Option.some.inj h; rfl
      | cons t ts => simp [offence?] at h
  | union | primitive | param | array | function => cases h; rfl

theorem partsVerdict_eq_accepted_iff {i : Nat} {ts : List Ty} :
    partsVerdict i ts = .accepted ↔ ∀ t ∈ ts, t.verdict = .accepted := by
  induction ts generalizing i with
  | nil => simp [partsVerdict]
  | cons t ts ih =>
      rw [partsVerdict, List.forall_mem_cons, ← ih (i := i + 1)]
      cases t.verdict <;> simp [Verdict.under]

theorem partsVerdict_of_getElem? {i k : Nat} {ts : List Ty} {t : Ty} {r : Rejection}
    (hk : ts[k]? = some t) (hleft : ∀ u ∈ ts.take k, u.verdict = .accepted)
    (ht : t.verdict = .rejected r) :
    partsVerdict i ts = .rejected ⟨r.offending, r.offence, (i + k) :: r.path⟩ := by
  induction k generalizing i ts with
  | zero =>
      obtain ⟨ts, rfl⟩ : ∃ us, ts = t :: us := by cases ts <;> simp_all
      rw [partsVerdict, ht]
      rfl
  | succ k ih =>
      cases ts with
      | nil => simp at hk
      | cons u ts =>
          rw [List.take_succ_cons, List.forall_mem_cons] at hleft
          rw [partsVerdict, hleft.1, Nat.add_comm k 1, ← Nat.add_assoc]
          exact ih (by simpa using hk) hleft.2

theorem exists_of_partsVerdict_eq_rejected {i : Nat} {ts : List Ty} {r : Rejection}
    (h : partsVerdict i ts = .rejected r) :
    ∃ k t r', ts[k]? = some t ∧ (∀ u ∈ ts.take k, u.verdict = .accepted) ∧
      t.verdict = .rejected r' ∧ r = ⟨r'.offending, r'.offence, (i + k) :: r'.path⟩ := by
  induction ts generalizing i with
  | nil => simp [partsVerdict] at h
  | cons t ts ih =>
      rw [partsVerdict] at h
      cases hv : t.verdict with
      | accepted =>
          rw [hv] at h
          obtain ⟨k, u, r', hk, hleft, hu, hr⟩ := ih h
          refine ⟨k + 1, u, r', hk, ?_, hu, ?_⟩
          · rw [List.take_succ_cons, List.forall_mem_cons]
            exact ⟨hv, hleft⟩
          · rw [hr, Nat.add_assoc, Nat.add_comm 1 k]
      | rejected r' =>
          rw [hv] at h
          exact ⟨0, t, r', rfl, by simp, hv, (Verdict.rejected.inj h).symm⟩

theorem verdict_intersection {ts : List Ty} {f : Flags} (h : ts ≠ []) :
    verdict ⟨.intersection ts, f⟩ = partsVerdict 0 ts := by
  cases ts with
  | nil => exact absurd rfl h
  | cons t ts => rfl

theorem verdict_intersection_eq_accepted_iff {ts : List Ty} {f : Flags} (h : ts ≠ []) :
    verdict ⟨.intersection ts, f⟩ = .accepted ↔ ∀ t ∈ ts, t.verdict = .accepted := by
  rw [verdict_intersection h, partsVerdict_eq_accepted_iff]

theorem blames_iff {t : Ty} {r : Rejection} : Blames t r ↔ t.verdict = .rejected r := by
  constructor
  · intro h
    induction h with
    | here t o fault => exact verdict_of_offence fault
    | part ts f k t r found left _ ih =>
        rw [verdict_intersection (List.ne_nil_of_mem (List.mem_of_getElem? found)),
          partsVerdict_of_getElem? found left ih, Nat.zero_add]
  · intro h
    induction t using ind generalizing r with
    | step t ih =>
        cases ho : t.offence? with
        | some o =>
            rw [verdict_of_offence ho] at h
            exact Verdict.rejected.inj h ▸ Blames.here t o ho
        | none =>
            rcases t with ⟨s, f⟩
            cases s with
            | object ms => simp [verdict] at h
            | union | primitive | param | array | function => simp [offence?] at ho
            | intersection ts =>
                have hne : ts ≠ [] := by rintro rfl; simp [offence?] at ho
                rw [verdict_intersection hne] at h
                obtain ⟨k, u, r', hk, hleft, hu, rfl⟩ := exists_of_partsVerdict_eq_rejected h
                rw [Nat.zero_add]
                exact Blames.part ts f k u r' hk hleft (ih u (List.mem_of_getElem? hk) hu)

theorem verdict_eq_accepted_iff {t : Ty} : t.verdict = .accepted ↔ Extendable t := by
  constructor
  · intro h
    induction t using ind with
    | step t ih =>
        rcases t with ⟨s, f⟩
        cases s with
        | object ms => exact .object ms f
        | intersection ts =>
            have hne : ts ≠ [] := by rintro rfl; simp [verdict, Verdict.reject] at h
            rw [verdict_intersection_eq_accepted_iff hne] at h
            exact .intersection ts f hne fun t ht => ih t ht (h t ht)
        | union | primitive | param | array | function => simp [verdict, Verdict.reject] at h
  · intro h
    induction h with
    | object ms f => rfl
    | intersection ts f nonempty _ ih =>
        rw [verdict_intersection_eq_accepted_iff nonempty]
        exact ih

@[simp] theorem partAt?_nil (t : Ty) : t.partAt? [] = some t := by rcases t with ⟨s, f⟩; cases s <;> rfl

theorem partAt?_intersection (ts : List Ty) (f : Flags) (i : Nat) (p : List Nat) :
    partAt? ⟨.intersection ts, f⟩ (i :: p) = ts[i]?.bind (partAt? · p) := by
  rw [partAt?]
  cases ts[i]? <;> rfl

theorem verdict_partAt? {t u : Ty} {p : List Nat} (h : t.verdict = .accepted)
    (hp : t.partAt? p = some u) : u.verdict = .accepted := by
  rw [verdict_eq_accepted_iff] at h
  induction h generalizing p with
  | object ms f =>
      cases p with
      | nil => cases hp; rfl
      | cons i p => simp [partAt?] at hp
  | intersection ts f nonempty parts ih =>
      cases p with
      | nil => cases hp; exact verdict_eq_accepted_iff.2 (.intersection ts f nonempty parts)
      | cons i p =>
          rw [partAt?_intersection, Option.bind_eq_some_iff] at hp
          obtain ⟨t, ht, hu⟩ := hp
          exact ih t (List.mem_of_getElem? ht) hu

theorem offence?_eq_none {t : Ty} (h : t.verdict = .accepted) : t.offence? = none := by
  cases ho : t.offence? with
  | none => rfl
  | some o => simp [verdict_of_offence ho] at h

theorem Blames.reached {t : Ty} {r : Rejection} (h : Blames t r) :
    t.partAt? r.path = some r.offending := by
  induction h with
  | here t o fault => exact partAt?_nil t
  | part ts f k t r found _ _ ih => rw [partAt?_intersection, found, Option.bind_some, ih]

theorem Blames.fault {t : Ty} {r : Rejection} (h : Blames t r) :
    r.offending.offence? = some r.offence := by
  induction h with
  | here t o fault => exact fault
  | part ts f k t r _ _ _ ih => exact ih

theorem Blames.least {t u : Ty} {r : Rejection} {q : List Nat} (h : Blames t r)
    (hq : t.partAt? q = some u) (hu : u.offence?.isSome) :
    r.path = q ∨ List.Lex (· < ·) r.path q := by
  induction h generalizing q with
  | here t o fault =>
      cases q with
      | nil => exact .inl rfl
      | cons i q => exact .inr .nil
  | part ts f k t r found left _ ih =>
      cases q with
      | nil =>
          have hne : ts ≠ [] := List.ne_nil_of_mem (List.mem_of_getElem? found)
          obtain rfl : ⟨.intersection ts, f⟩ = u := by simpa using hq
          cases ts with
          | nil => exact absurd rfl hne
          | cons t ts => simp [offence?] at hu
      | cons i q =>
          rw [partAt?_intersection, Option.bind_eq_some_iff] at hq
          obtain ⟨v, hv, hq⟩ := hq
          rcases Nat.lt_trichotomy i k with hi | rfl | hi
          · have hmem : v ∈ ts.take k := List.mem_of_getElem? (by rw [List.getElem?_take_of_lt hi, hv])
            rw [offence?_eq_none (verdict_partAt? (left v hmem) hq)] at hu
            simp at hu
          · obtain rfl : t = v := Option.some.inj (found.symm.trans hv)
            rcases ih hq with hp | hp
            · exact .inl (congrArg (i :: ·) hp)
            · exact .inr (.cons hp)
          · exact .inr (.rel hi)

theorem Blames.left {t : Ty} {r : Rejection} {p q : List Nat} {i j : Nat} (h : Blames t r)
    (hp : r.path = p ++ i :: q) (hj : j < i) :
    ∃ u, t.partAt? (p ++ [j]) = some u ∧ u.verdict = .accepted := by
  induction h generalizing p with
  | here t o fault => simp at hp
  | part ts f k t r found left _ ih =>
      cases p with
      | nil =>
          obtain rfl : k = i := (List.cons.inj hp).1
          have hlen := (List.getElem?_eq_some_iff.1 found).1
          have hjs : ts[j]? = some ts[j] := List.getElem?_eq_getElem (Nat.lt_trans hj hlen)
          refine ⟨ts[j], ?_, left _ (List.mem_of_getElem? (by rw [List.getElem?_take_of_lt hj, hjs]))⟩
          rw [List.nil_append, partAt?_intersection, hjs, Option.bind_some, partAt?_nil]
      | cons k' p =>
          obtain ⟨hk, hp⟩ := List.cons.inj (show k :: r.path = k' :: (p ++ i :: q) from hp)
          obtain ⟨u, hu, hv⟩ := ih hp
          refine ⟨u, ?_, hv⟩
          rw [← hk, List.cons_append, partAt?_intersection, found, Option.bind_some, hu]

theorem FirstOffence.eq {t : Ty} {r r' : Rejection} (h : t.FirstOffence r) (h' : t.FirstOffence r') :
    r = r' := by
  have hp : r.path = r'.path := by
    rcases h.least _ _ h'.reached (by simp [h'.fault]) with hp | hlt
    · exact hp
    · rcases h'.least _ _ h.reached (by simp [h.fault]) with hp | hgt
      · exact hp.symm
      · exact absurd hgt (List.lex_asymm Nat.lt_asymm hlt)
  have hu : r.offending = r'.offending :=
    Option.some.inj (h.reached.symm.trans (hp ▸ h'.reached))
  have ho : r.offence = r'.offence := Option.some.inj (h.fault.symm.trans (hu ▸ h'.fault))
  cases r
  cases r'
  simp_all

theorem verdict_eq_rejected_iff {t : Ty} {r : Rejection} :
    t.verdict = .rejected r ↔ t.FirstOffence r := by
  have first {r : Rejection} (h : t.verdict = .rejected r) : t.FirstOffence r := by
    have hb := blames_iff.2 h
    refine ⟨hb.reached, hb.fault, ?_, ?_⟩
    · intro q u hq hu
      exact hb.least hq hu
    · intro p i q hp j hj
      exact hb.left hp hj
  constructor
  · exact first
  · intro h
    cases hv : t.verdict with
    | accepted =>
        have := offence?_eq_none (verdict_partAt? hv h.reached)
        simp [h.fault] at this
    | rejected r' => rw [(first hv).eq h]

/-- Exactly the types of the set are accepted, and any other is rejected for its first offence. -/
theorem verdict_accepts_extendable_blames_first (t : Ty) :
    (t.verdict = .accepted ↔ Extendable t) ∧ ∀ r, t.verdict = .rejected r ↔ t.FirstOffence r :=
  ⟨verdict_eq_accepted_iff, fun _ => verdict_eq_rejected_iff⟩

end Ty

end InterfaceCheck
