import Mathlib.Data.List.Induction
import Mathlib.Logic.Relation
import InterfaceCheck.Proofs.NormalForm

namespace InterfaceCheck.Ty

/-- One union of the list gives way to its alternatives. -/
inductive Opens : List Ty → List Ty → Prop
  | mk (xs us f ys) : Opens (xs ++ ⟨.union us, f⟩ :: ys) (xs ++ us ++ ys)

/-- The second list is left of the first when unions give way until there are none. -/
structure Flattens (ts us : List Ty) : Prop where
  opens : Relation.ReflTransGen Opens ts us
  flat : ∀ u ∈ us, u.kind ≠ .union

/-- The type is the second one, or stands below it with unions only above. -/
inductive AlternativeOf : Ty → Ty → Prop
  | self (t) : AlternativeOf t t
  | inUnion (u t ts f) (mem : t ∈ ts) (alternative : AlternativeOf u t) : AlternativeOf u ⟨.union ts, f⟩

def distinct (ts : List Ty) : List Ty :=
  ts.zipIdx.filterMap fun (t, i) => if (ts.take i).any (same · t) then none else some t

def ofDistinct : List Ty → Ty
  | [] => primitive .never
  | [t] => t
  | ts => intern (.union ts)

theorem Opens.append {ts us : List Ty} (h : Opens ts us) (xs ys : List Ty) :
    Opens (xs ++ ts ++ ys) (xs ++ us ++ ys) := by
  cases h with
  | mk ts us f vs => simpa only [List.append_assoc, List.cons_append] using Opens.mk (xs ++ ts) us f (vs ++ ys)

theorem Opens.append_star {ts us : List Ty} (h : Relation.ReflTransGen Opens ts us) (xs ys : List Ty) :
    Relation.ReflTransGen Opens (xs ++ ts ++ ys) (xs ++ us ++ ys) :=
  h.lift (fun ts => xs ++ ts ++ ys) fun _ _ h => h.append xs ys

theorem Opens.flatMap_alternatives {ts us : List Ty} (h : Opens ts us) :
    ts.flatMap alternatives = us.flatMap alternatives := by
  cases h with
  | mk xs us f ys => simp only [List.flatMap_append, List.flatMap_cons, alternatives_union, List.append_assoc]

theorem opens_flatMap_of_forall {ts : List Ty}
    (h : ∀ t ∈ ts, Relation.ReflTransGen Opens [t] t.alternatives) :
    Relation.ReflTransGen Opens ts (ts.flatMap alternatives) := by
  induction ts with
  | nil => exact .refl
  | cons t ts ih =>
      rw [List.forall_mem_cons] at h
      have hhead : Relation.ReflTransGen Opens (t :: ts) (t.alternatives ++ ts) := by
        simpa using Opens.append_star h.1 [] ts
      have htail : Relation.ReflTransGen Opens (t.alternatives ++ ts) (t.alternatives ++ ts.flatMap alternatives) := by
        simpa using Opens.append_star (ih h.2) t.alternatives []
      exact hhead.trans htail

theorem opens_alternatives (t : Ty) : Relation.ReflTransGen Opens [t] t.alternatives := by
  induction t using union_ind with
  | other t hk =>
      rw [alternatives_of_ne hk]
  | union ts f ih =>
      have hopen : Opens [⟨.union ts, f⟩] ts := by simpa using Opens.mk [] ts f []
      rw [alternatives_union]
      exact .head hopen (opens_flatMap_of_forall ih)

/-- However the unions of a list give way, the same list is left. -/
theorem flattens_iff {ts us : List Ty} : Flattens ts us ↔ us = ts.flatMap alternatives := by
  constructor
  · rintro ⟨hopens, hflat⟩
    have hsame : ts.flatMap alternatives = us.flatMap alternatives := by
      induction hopens using Relation.ReflTransGen.head_induction_on with
      | refl => rfl
      | head hopen _ ih => exact hopen.flatMap_alternatives.trans ih
    rw [hsame, flatMap_alternatives hflat]
  · rintro rfl
    constructor
    · exact opens_flatMap_of_forall fun t _ => opens_alternatives t
    · rw [List.forall_mem_flatMap]
      intro t _ u hu
      exact (forall_mem_alternatives (P := fun _ => True) (fun _ _ _ _ _ => trivial) trivial u hu).1

theorem mem_alternatives_iff {t u : Ty} : u ∈ t.alternatives ↔ u.kind ≠ .union ∧ AlternativeOf u t := by
  induction t using union_ind with
  | other t hk =>
      rw [alternatives_of_ne hk, List.mem_singleton]
      constructor
      · rintro rfl
        exact ⟨hk, .self u⟩
      · rintro ⟨_, h⟩
        cases h with
        | self => rfl
        | inUnion t ts f => exact absurd rfl hk
  | union ts f ih =>
      rw [alternatives_union, List.mem_flatMap]
      constructor
      · rintro ⟨t, ht, hu⟩
        obtain ⟨hk, h⟩ := (ih t ht).1 hu
        exact ⟨hk, .inUnion u t ts f ht h⟩
      · rintro ⟨hk, h⟩
        cases h with
        | self => exact absurd rfl hk
        | inUnion t ts f ht h => exact ⟨t, ht, (ih t ht).2 ⟨hk, h⟩⟩

theorem distinct_concat (ts : List Ty) (t : Ty) :
    distinct (ts ++ [t]) = distinct ts ++ (if ts.any (same · t) then none else some t).toList :=
  filterMap_zipIdx_concat (fun earlier t => if earlier.any (same · t) then none else some t) ts t

theorem foldl_addDistinct_nil (ts : List Ty) : ts.foldl addDistinct [] = distinct ts := by
  induction ts using List.reverseRecOn with
  | nil => rfl
  | append_singleton ts t ih =>
      have hmem : t ∈ distinct ts ↔ t ∈ ts := by
        rw [← ih, mem_foldl_addDistinct]
        simp
      rw [List.foldl_concat, ih, distinct_concat]
      by_cases ht : t ∈ ts
      · rw [addDistinct_of_mem (hmem.2 ht), if_pos (any_same_iff.2 ht), Option.toList_none,
          List.append_nil]
      · rw [addDistinct_of_notMem (mt hmem.1 ht), if_neg (mt any_same_iff.1 ht),
          Option.toList_some]

theorem mem_distinct {ts : List Ty} {t : Ty} : t ∈ distinct ts ↔ t ∈ ts := by
  rw [← foldl_addDistinct_nil, mem_foldl_addDistinct]
  simp

theorem addAlternatives_nil (ts : List Ty) : addAlternatives [] ts = distinct (ts.flatMap alternatives) := by
  rw [addAlternatives_eq, foldl_addDistinct_nil]

theorem union_eq (ts : List Ty) : union ts = ofDistinct (distinct (ts.flatMap alternatives)) := by
  rw [union, addAlternatives_nil]
  rfl

/-- A union has the alternatives of the list that it is built from, in their order: all unions of the
list are opened, at any depth, and nothing else is, and of equal alternatives the first is kept. -/
theorem union_has_distinct_alternatives (ts : List Ty) :
    (∀ us, Flattens ts us ↔ us = ts.flatMap alternatives) ∧
    union ts = ofDistinct (distinct (ts.flatMap alternatives)) ∧
    ∀ u, u ∈ distinct (ts.flatMap alternatives) ↔ u.kind ≠ .union ∧ ∃ t ∈ ts, AlternativeOf u t := by
  refine ⟨fun us => flattens_iff, union_eq ts, ?_⟩
  intro u
  simp only [mem_distinct, List.mem_flatMap, mem_alternatives_iff]
  constructor
  · rintro ⟨t, ht, hk, hu⟩
    exact ⟨hk, t, ht, hu⟩
  · rintro ⟨hk, t, ht, hu⟩
    exact ⟨t, ht, hk, hu⟩

theorem foldl_addDistinct_addDistinct (found seen : List Ty) (t : Ty) :
    (addDistinct seen t).foldl addDistinct found = addDistinct (seen.foldl addDistinct found) t := by
  by_cases ht : t ∈ seen
  · rw [addDistinct_of_mem ht, addDistinct_of_mem (mem_foldl_addDistinct.2 (.inr ht))]
  · rw [addDistinct_of_notMem ht, List.foldl_concat]

theorem foldl_addDistinct_foldl (found seen ts : List Ty) :
    (ts.foldl addDistinct seen).foldl addDistinct found = ts.foldl addDistinct (seen.foldl addDistinct found) := by
  induction ts generalizing seen with
  | nil => rfl
  | cons t ts ih => rw [List.foldl_cons, ih, foldl_addDistinct_addDistinct, List.foldl_cons]

theorem foldl_addDistinct_of_subset {found ts : List Ty} (h : ts ⊆ found) : ts.foldl addDistinct found = found := by
  induction ts with
  | nil => rfl
  | cons t ts ih =>
      rw [List.cons_subset] at h
      rw [List.foldl_cons, addDistinct_of_mem h.1, ih h.2]

theorem alternatives_ofDistinct {ts : List Ty} (hne : ts ≠ []) (hk : ∀ t ∈ ts, t.kind ≠ .union) :
    (ofDistinct ts).alternatives = ts := by
  match ts with
  | [] => exact absurd rfl hne
  | [t] => exact alternatives_of_ne (hk t (List.mem_singleton_self t))
  | t :: u :: ts => exact (alternatives_union _ _).trans (flatMap_alternatives hk)

theorem alternatives_union_of_ne_nil {ts : List Ty} (h : ts.flatMap alternatives ≠ []) :
    (union ts).alternatives = distinct (ts.flatMap alternatives) := by
  rw [union_eq]
  apply alternatives_ofDistinct
  · obtain ⟨t, ht⟩ := List.exists_mem_of_ne_nil _ h
    exact List.ne_nil_of_mem (mem_distinct.2 ht)
  · intro t ht
    exact (flattens_iff.2 rfl).flat t (mem_distinct.1 ht)

theorem union_congr {ts us : List Ty} (h : addAlternatives [] ts = addAlternatives [] us) : union ts = union us := by
  rw [union, union, h]

/-- One group of alternatives, a union node as it is given or the union of a list, is written out. -/
inductive WritesOut : List Ty → List Ty → Prop
  | node (xs ys f zs) : WritesOut (xs ++ [⟨.union ys, f⟩] ++ zs) (xs ++ ys ++ zs)
  | built (xs ys zs) (nonempty : ys.flatMap alternatives ≠ []) :
      WritesOut (xs ++ [union ys] ++ zs) (xs ++ ys ++ zs)

theorem WritesOut.union_eq {ts us : List Ty} (h : WritesOut ts us) : union ts = union us := by
  apply union_congr
  cases h with
  | node xs ys f zs => simp only [addAlternatives_append, addAlternatives, addAlternative]
  | built xs ys zs nonempty =>
      have hgroup (found : List Ty) : addAlternatives found [union ys] = addAlternatives found ys := by
        rw [addAlternatives_eq, List.flatMap_singleton, alternatives_union_of_ne_nil nonempty,
          ← foldl_addDistinct_nil, foldl_addDistinct_foldl, addAlternatives_eq]
        rfl
      simp only [addAlternatives_append, hgroup]

theorem union_append_of_subset {zs ws : List Ty} (h : ws ⊆ zs) : union (zs ++ ws) = union zs := by
  apply union_congr
  rw [addAlternatives_append, addAlternatives_eq _ ws, addAlternatives_eq]
  apply foldl_addDistinct_of_subset
  intro t ht
  rw [List.mem_flatMap] at ht
  obtain ⟨w, hw, ht⟩ := ht
  exact mem_foldl_addDistinct.2 (.inr (List.mem_flatMap.2 ⟨w, h hw, ht⟩))

/-- Alternatives can be grouped in any way, as long as no group is empty, and repeats add nothing. -/
theorem union_ignores_grouping (xs ys zs : List Ty) :
    union (xs ++ [intern (.union ys)] ++ zs) = union (xs ++ ys ++ zs) ∧
    (ys.flatMap alternatives ≠ [] → union (xs ++ [union ys] ++ zs) = union (xs ++ ys ++ zs)) ∧
    (∀ ts us, Relation.EqvGen WritesOut ts us → union ts = union us) ∧
    ∀ ws, ws ⊆ zs → union (zs ++ ws) = union zs := by
  refine ⟨(WritesOut.node xs ys _ zs).union_eq, fun h => (WritesOut.built xs ys zs h).union_eq, ?_,
    fun ws => union_append_of_subset⟩
  intro ts us h
  induction h with
  | rel ts us h => exact h.union_eq
  | refl ts => rfl
  | symm ts us _ ih => exact ih.symm
  | trans ts us vs _ _ ih ih' => exact ih.trans ih'

def nulls : List Ty := [intern (.union [intern (.union [primitive .null])]), primitive .null]

theorem union_ignores_nulls :
    nulls.flatMap alternatives ≠ [] ∧ (union nulls).kind = .primitive ∧
    union ([primitive .null] ++ [union nulls] ++ [primitive .void]) =
      union ([primitive .null] ++ nulls ++ [primitive .void]) := by
  have hne : nulls.flatMap alternatives ≠ [] := by decide
  obtain ⟨_, hbuilt, _, _⟩ := union_ignores_grouping [primitive .null] nulls [primitive .void]
  exact ⟨hne, rfl, hbuilt hne⟩

/-- A group without alternatives is no group that can be written out: it counts as `never`. -/
example : union [primitive .null, union []] ≠ union ([primitive .null] ++ []) := by decide

end InterfaceCheck.Ty
