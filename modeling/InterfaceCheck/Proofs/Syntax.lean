import Mathlib.Logic.Function.Iterate
import InterfaceCheck.Proofs.Cut
import InterfaceCheck.Ty.Build

namespace InterfaceCheck

/-- The categories of the syntax, from the loosest to the tightest. -/
inductive Category where
  | type
  | union
  | intersection
  | array
  | atom

/-- A single operand stands for itself, and a longer chain for a node with all of them. -/
def chain (node : List Ty → Shape Ty) : List Ty → Ty
  | [t] => t
  | ts => .intern (node ts)

@[simp] theorem chain_singleton (node : List Ty → Shape Ty) (t : Ty) : chain node [t] = t := rfl

theorem chain_of_two_le (node : List Ty → Shape Ty) {ts : List Ty} (h : 2 ≤ ts.length) :
    chain node ts = .intern (node ts) := by
  match ts with
  | [] | [_] => simp at h
  | _ :: _ :: _ => rfl

def parameterText (i : Nat) (s : String) : String := "arg" ++ i.repr ++ ": " ++ s

def parametersText (ps : List (String × Ty)) : String :=
  ", ".intercalate (ps.mapIdx fun i p => parameterText i p.1)

def memberText (m : Member (String × Ty)) : String := m.name ++ ": " ++ m.type.1

def membersText (ms : List (Member (String × Ty))) : String := "; ".intercalate (ms.map memberText)

/-- The text means the type where the syntax has the category. A name of a member is any text without a
colon: the first colon behind it ends it. -/
inductive Spells : Category → String → Ty → Prop
  | function (ps : List (String × Ty)) (s t) (params : ∀ p ∈ ps, Spells .type p.1 p.2)
      (result : Spells .type s t) :
      Spells .type ("(" ++ parametersText ps ++ ") => " ++ s) (Ty.function (ps.map (·.2)) t)
  | ofUnion (s t) (operand : Spells .union s t) : Spells .type s t
  | union (xs : List (String × Ty)) (nonempty : xs ≠ [])
      (operands : ∀ x ∈ xs, Spells .intersection x.1 x.2) :
      Spells .union (" | ".intercalate (xs.map (·.1))) (chain .union (xs.map (·.2)))
  | intersection (xs : List (String × Ty)) (nonempty : xs ≠ [])
      (operands : ∀ x ∈ xs, Spells .array x.1 x.2) :
      Spells .intersection (" & ".intercalate (xs.map (·.1))) (chain .intersection (xs.map (·.2)))
  | array (n : Nat) (s t) (elem : Spells .atom s t) :
      Spells .array (s ++ String.join (List.replicate n "[]")) (Nat.iterate Ty.array n t)
  | primitive (p : Primitive) : Spells .atom p.keyword (Ty.primitive p)
  | param (n : UInt16) : Spells .atom ("T" ++ n.toNat.repr) (Ty.param n)
  | emptyObject : Spells .atom "\x7b\x7d" (Ty.intern (.object []))
  | object (ms : List (Member (String × Ty))) (nonempty : ms ≠ []) (names : ∀ m ∈ ms, ':' ∉ m.name.toList)
      (types : ∀ m ∈ ms, Spells .type m.type.1 m.type.2) :
      Spells .atom ("\x7b " ++ membersText ms ++ " \x7d") (Ty.intern (.object (ms.map (·.map Prod.snd))))
  | emptyIntersection : Spells .atom "(empty intersection)" (Ty.intersection [])
  | parens (s t) (inner : Spells .type s t) : Spells .atom ("(" ++ s ++ ")") t

/-- How a text of a category could go on, other than by a digit. -/
def Category.continuations : Category → List String
  | .type | .union => ["[]", " & ", " | "]
  | .intersection => ["[]", " & "]
  | .array => ["[]"]
  | .atom => []

/-- A text of the category ends where `rest` begins. -/
def Ends (c : Category) (rest : List Char) : Prop :=
  (∀ d ∈ rest.head?, d.isDigit = false) ∧ ∀ s ∈ c.continuations, ¬ s.toList <+: rest

theorem Ends.nil (c : Category) : Ends c [] := by cases c <;> simp [Ends, Category.continuations]

theorem Ends.mono {c d : Category} {ws : List Char} (h : Ends c ws)
    (hcd : d.continuations ⊆ c.continuations) : Ends d ws :=
  ⟨h.1, fun s hs => h.2 s (hcd hs)⟩

theorem Ends.ofUnion {ws : List Char} (h : Ends .union ws) :
    Ends .intersection ws ∧ ¬ " | ".toList <+: ws :=
  ⟨h.mono (by decide), h.2 _ (by decide)⟩

theorem Ends.ofIntersection {ws : List Char} (h : Ends .intersection ws) :
    Ends .array ws ∧ ¬ " & ".toList <+: ws :=
  ⟨h.mono (by decide), h.2 _ (by decide)⟩

theorem Ends.not_brackets {ws : List Char} (h : Ends .array ws) : ¬ "[]".toList <+: ws :=
  h.2 _ List.mem_cons_self

theorem Ends.parenthesis (ws : List Char) : Ends .type (')' :: ws) := by
  simp [Ends, Category.continuations]

theorem Spells.opens {c : Category} {s : String} {t : Ty} (h : Spells c s t) (hc : c ≠ .type) :
    ∃ a u, Spells .atom a u ∧ a.toList <+: s.toList := by
  induction h with
  | function | ofUnion => exact absurd rfl hc
  | union xs nonempty operands ih | intersection xs nonempty operands ih =>
      obtain ⟨x, xs, rfl⟩ := List.exists_cons_of_ne_nil nonempty
      obtain ⟨a, u, ha, hprefix⟩ := ih x List.mem_cons_self nofun
      exact ⟨a, u, ha, hprefix.trans (prefix_intercalate ..)⟩
  | array n s t elem =>
      refine ⟨s, t, elem, ?_⟩
      rw [String.toList_append]
      exact List.prefix_append ..
  | primitive p => exact ⟨_, _, .primitive p, List.prefix_refl _⟩
  | param n => exact ⟨_, _, .param n, List.prefix_refl _⟩
  | emptyObject => exact ⟨_, _, .emptyObject, List.prefix_refl _⟩
  | object ms nonempty names types => exact ⟨_, _, .object ms nonempty names types, List.prefix_refl _⟩
  | emptyIntersection => exact ⟨_, _, .emptyIntersection, List.prefix_refl _⟩
  | parens s t inner => exact ⟨_, _, .parens s t inner, List.prefix_refl _⟩

def leads : List String := "(" :: "\x7b" :: "T" :: Primitive.all.map Primitive.keyword

theorem Spells.lead {c : Category} {s : String} {t : Ty} (h : Spells c s t) :
    ∃ k ∈ leads, k.toList <+: s.toList := by
  induction h with
  | function | parens | emptyIntersection => exact ⟨"(", by simp [leads], by simp⟩
  | object | emptyObject => exact ⟨"\x7b", by simp [leads], by simp⟩
  | param n => exact ⟨"T", by simp [leads], by simp⟩
  | primitive p =>
      have hmem : p.keyword ∈ Primitive.all.map Primitive.keyword := List.mem_map_of_mem p.mem_all
      exact ⟨p.keyword, by simp [leads, List.mem_map.1 hmem], List.prefix_refl _⟩
  | ofUnion s t _ ih => exact ih
  | union xs nonempty _ ih | intersection xs nonempty _ ih =>
      obtain ⟨x, xs, rfl⟩ := List.exists_cons_of_ne_nil nonempty
      obtain ⟨k, hk, hprefix⟩ := ih x List.mem_cons_self
      exact ⟨k, hk, hprefix.trans (prefix_intercalate ..)⟩
  | array n s t _ ih =>
      obtain ⟨k, hk, hprefix⟩ := ih
      rw [String.toList_append]
      exact ⟨k, hk, hprefix.trans (List.prefix_append ..)⟩

theorem keyword_append_ne {p : Primitive} {us ws : List Char} {c : Char}
    (hc : c = '(' ∨ c = '\x7b' ∨ c = 'T') : p.keyword.toList ++ us ≠ c :: ws := by
  rcases hc with rfl | rfl | rfl <;> cases p <;> simp [Primitive.keyword]

theorem ne_keyword_append {p : Primitive} {us ws : List Char} {c : Char}
    (hc : c = '(' ∨ c = '\x7b' ∨ c = 'T') : c :: ws ≠ p.keyword.toList ++ us :=
  (keyword_append_ne hc).symm

def FunctionHead (ws : List Char) : Prop := ")".toList <+: ws ∨ "arg".toList <+: ws

theorem Spells.not_functionHead {c : Category} {s : String} {t : Ty} (h : Spells c s t) (us : List Char) :
    ¬ FunctionHead (s.toList ++ us) ∧ ¬ "empty".toList <+: s.toList ++ us := by
  obtain ⟨k, hk, rest, hrest⟩ := h.lead
  rw [← hrest, FunctionHead]
  simp only [leads, Primitive.all, List.map_cons, List.map_nil, List.mem_cons, List.not_mem_nil,
    or_false, Primitive.keyword] at hk
  rcases hk with rfl | rfl | rfl | rfl | rfl | rfl | rfl | rfl | rfl | rfl | rfl | rfl | rfl | rfl <;>
    simp

theorem Spells.atom_ne_function {s : String} {t : Ty} {us ws : List Char} (h : Spells .atom s t)
    (hs : s.toList ++ us = '(' :: ws) : ¬ FunctionHead ws := by
  cases h with
  | primitive p => exact absurd hs (keyword_append_ne (.inl rfl))
  | param | emptyObject | object => simp at hs
  | emptyIntersection =>
      obtain rfl : "empty intersection)".toList ++ us = ws := by simpa using hs
      simp [FunctionHead]
  | parens s t inner =>
      obtain rfl : s.toList ++ ')' :: us = ws := by simpa using hs
      exact (inner.not_functionHead _).1

theorem Spells.ne_function {c : Category} {s : String} {t : Ty} {us ws : List Char} (h : Spells c s t)
    (hc : c ≠ .type) (hs : s.toList ++ us = '(' :: ws) : ¬ FunctionHead ws := by
  obtain ⟨a, u, ha, rest, hrest⟩ := h.opens hc
  rw [← hrest, List.append_assoc] at hs
  exact ha.atom_ne_function hs

theorem keyword_cut {p q : Primitive} {us vs : List Char}
    (h : p.keyword.toList ++ us = q.keyword.toList ++ vs) : p = q := by
  have hfree : ∀ p ∈ Primitive.all, ∀ q ∈ Primitive.all, p.keyword.toList <+: q.keyword.toList → p = q := by
    decide
  have hq : q.keyword.toList <+: p.keyword.toList ++ us := h ▸ List.prefix_append ..
  rcases List.prefix_or_prefix_of_prefix (List.prefix_append ..) hq with hpq | hqp
  · exact hfree p p.mem_all q q.mem_all hpq
  · exact (hfree q q.mem_all p p.mem_all hqp).symm

def Cuts (c : Category) (xs : List (String × Ty)) : Prop :=
  ∀ x ∈ xs, ∀ y, Spells c y.1 y.2 → ∀ us vs, Ends c us → Ends c vs →
    x.1.toList ++ us = y.1.toList ++ vs → x = y

theorem operands_cut {c : Category} {sep : String} {xs ys : List (String × Ty)} {us vs : List Char}
    (hcut : Cuts c xs) (hxs : xs ≠ []) (hys : ys ≠ []) (hspells : ∀ y ∈ ys, Spells c y.1 y.2)
    (hsep : ∀ ws, Ends c (sep.toList ++ ws)) (hus : Ends c us) (hvs : Ends c vs)
    (hus' : ¬ sep.toList <+: us) (hvs' : ¬ sep.toList <+: vs)
    (h : (sep.intercalate (xs.map (·.1))).toList ++ us = (sep.intercalate (ys.map (·.1))).toList ++ vs) :
    xs = ys ∧ us = vs := by
  rw [String.toList_intercalate, String.toList_intercalate, List.map_map, List.map_map] at h
  exact intercalate_cut hxs hys (fun x hx y hy => hcut x hx y (hspells y hy)) hsep hus hvs hus' hvs' h

theorem arg_begins (p : String × Ty) (ps : List (String × Ty)) :
    "arg".toList <+: (parametersText (p :: ps)).toList := by
  rw [parametersText, List.mapIdx_cons]
  apply List.IsPrefix.trans _ (prefix_intercalate ..)
  simp only [parameterText, String.toList_append, List.append_assoc]
  exact List.prefix_append ..

theorem functionHead_parametersText (ps : List (String × Ty)) (us : List Char) :
    FunctionHead ((parametersText ps).toList ++ ')' :: us) := by
  cases ps with
  | nil => exact .inl (by simp [parametersText])
  | cons p ps => exact .inr ((arg_begins p ps).trans (List.prefix_append ..))

theorem parameters_cut_of_cons {x y : String × Ty} {xs ys : List (String × Ty)} {us vs : List Char}
    (hcut : Cuts .type (x :: xs)) (hspells : ∀ p ∈ y :: ys, Spells .type p.1 p.2)
    (h : (parametersText (x :: xs)).toList ++ ')' :: us = (parametersText (y :: ys)).toList ++ ')' :: vs) :
    x :: xs = y :: ys ∧ us = vs := by
  let text (p : (String × Ty) × Nat) : List Char := (parameterText p.2 p.1.1).toList
  have htext (zs : List (String × Ty)) :
      (parametersText zs).toList = ", ".toList.intercalate (zs.zipIdx.map text) := by
    rw [parametersText, String.toList_intercalate, List.mapIdx_eq_zipIdx_map, List.map_map]
    rfl
  have hcut' : ∀ p ∈ (x :: xs).zipIdx, ∀ q ∈ (y :: ys).zipIdx, ∀ us vs, Ends .type us → Ends .type vs →
      text p ++ us = text q ++ vs → p = q := by
    rintro ⟨p, i⟩ hp ⟨q, j⟩ hq us vs hus hvs he
    simp only [text, parameterText, String.toList_append, List.append_assoc] at he
    -- The positions agree because a numeral ends where the colon stands.
    obtain ⟨hij, hrest⟩ := repr_cut (List.append_cancel_left he) (by simp) (by simp)
    have hpq := hcut p (List.fst_mem_of_mem_zipIdx hp) q (hspells q (List.fst_mem_of_mem_zipIdx hq)) us vs
      hus hvs (List.append_cancel_left hrest)
    rw [hpq, hij]
  have hsep (ws : List Char) : Ends .type (", ".toList ++ ws) := by simp [Ends, Category.continuations]
  rw [htext, htext] at h
  obtain ⟨hxys, huvs⟩ := intercalate_cut (by simp) (by simp) hcut' hsep (.parenthesis us) (.parenthesis vs)
    (by simp) (by simp) h
  have hfst := congrArg (List.map Prod.fst) hxys
  rw [List.zipIdx_map_fst, List.zipIdx_map_fst] at hfst
  exact ⟨hfst, (List.cons.inj huvs).2⟩

theorem parameters_cut {xs ys : List (String × Ty)} {us vs : List Char} (hcut : Cuts .type xs)
    (hspells : ∀ y ∈ ys, Spells .type y.1 y.2)
    (h : (parametersText xs).toList ++ ')' :: us = (parametersText ys).toList ++ ')' :: vs) :
    xs = ys ∧ us = vs := by
  have hno (p : String × Ty) (ps : List (String × Ty)) (us ws : List Char) :
      (parametersText (p :: ps)).toList ++ us ≠ ')' :: ws := by
    obtain ⟨rest, hrest⟩ := arg_begins p ps
    rw [← hrest]
    simp
  cases xs with
  | nil =>
      cases ys with
      | nil => exact ⟨rfl, by simpa [parametersText] using h⟩
      | cons y ys => exact absurd h.symm (hno y ys _ _)
  | cons x xs =>
      cases ys with
      | nil => exact absurd h (hno x xs _ _)
      | cons y ys => exact parameters_cut_of_cons hcut hspells h

theorem members_cut {ms ns : List (Member (String × Ty))} {us vs : List Char} (hms : ms ≠ []) (hns : ns ≠ [])
    (hcut : Cuts .type (ms.map (·.type))) (hspells : ∀ n ∈ ns, Spells .type n.type.1 n.type.2)
    (hmnames : ∀ m ∈ ms, ':' ∉ m.name.toList) (hnnames : ∀ n ∈ ns, ':' ∉ n.name.toList)
    (h : (membersText ms).toList ++ ' ' :: '\x7d' :: us = (membersText ns).toList ++ ' ' :: '\x7d' :: vs) :
    ms = ns ∧ us = vs := by
  have hends (ws : List Char) : Ends .type (' ' :: '\x7d' :: ws) := by simp [Ends, Category.continuations]
  have hcut' : ∀ m ∈ ms, ∀ n ∈ ns, ∀ us vs, Ends .type us → Ends .type vs →
      (memberText m).toList ++ us = (memberText n).toList ++ vs → m = n := by
    intro m hm n hn us vs hus hvs he
    simp only [memberText, String.toList_append, List.append_assoc] at he
    have hnocolon {m : Member (String × Ty)} (hm : ':' ∉ m.name.toList) :
        ∀ c ∈ m.name.toList, (c != ':') = true := by
      intro c hc
      rw [bne_iff_ne]
      rintro rfl
      exact hm hc
    obtain ⟨hname, hrest⟩ := cut_unique he (hnocolon (hmnames m hm)) (hnocolon (hnnames n hn)) (by simp)
      (by simp)
    have htype := hcut m.type (List.mem_map_of_mem hm) n.type (hspells n hn) us vs hus hvs
      (List.append_cancel_left hrest)
    calc m = ⟨m.name, m.type⟩ := rfl
      _ = ⟨n.name, n.type⟩ := by rw [String.toList_inj.1 hname, htype]
  rw [membersText, membersText, String.toList_intercalate, String.toList_intercalate, List.map_map,
    List.map_map] at h
  obtain ⟨rfl, huvs⟩ := intercalate_cut hms hns hcut' (by simp [Ends, Category.continuations]) (hends us)
    (hends vs) (by simp) (by simp) h
  exact ⟨rfl, by simpa using huvs⟩

theorem brackets_cut {m n : Nat} {us vs : List Char} (hus : ¬ "[]".toList <+: us)
    (hvs : ¬ "[]".toList <+: vs)
    (h : (String.join (List.replicate m "[]")).toList ++ us =
      (String.join (List.replicate n "[]")).toList ++ vs) : m = n ∧ us = vs := by
  simp only [String.toList_join] at h
  induction m generalizing n with
  | zero =>
      cases n with
      | zero => exact ⟨rfl, by simpa using h⟩
      | succ n => exact absurd ⟨_, by simpa [List.replicate_succ] using h.symm⟩ hus
  | succ m ih =>
      cases n with
      | zero => exact absurd ⟨_, by simpa [List.replicate_succ] using h⟩ hvs
      | succ n =>
          obtain ⟨hmn, huvs⟩ := ih (n := n) (by simpa [List.replicate_succ] using h)
          exact ⟨by rw [hmn], huvs⟩

theorem Ends.separator (ws : List Char) :
    Ends .intersection (" | ".toList ++ ws) ∧ Ends .array (" & ".toList ++ ws) := by
  simp [Ends, Category.continuations]

theorem Ends.brackets {ws : List Char} (h : Ends .array ws) (n : Nat) :
    Ends .atom ((String.join (List.replicate n "[]")).toList ++ ws) := by
  cases n with
  | zero => simpa using h.mono (List.nil_subset _)
  | succ n => simp [Ends, Category.continuations, List.replicate_succ]

/-- A text is read in one way only, whatever stands behind it that it could not take in. -/
theorem Spells.cut {c : Category} {s s' : String} {t t' : Ty} {us vs : List Char} (h : Spells c s t)
    (h' : Spells c s' t') (hus : Ends c us) (hvs : Ends c vs)
    (he : s.toList ++ us = s'.toList ++ vs) : s = s' ∧ t = t' := by
  induction h generalizing s' t' us vs with
  | function ps s t params result ihp ihr =>
      cases h' with
      | function ps' s' t' params' result' =>
          have hcut : Cuts .type ps := by
            intro p hp q hq us vs hus hvs he
            exact Prod.ext_iff.2 (ihp p hp hq hus hvs he)
          have hparams : (parametersText ps).toList ++ ')' :: (" => ".toList ++ (s.toList ++ us)) =
              (parametersText ps').toList ++ ')' :: (" => ".toList ++ (s'.toList ++ vs)) := by
            simpa using he
          obtain ⟨hps, hrest⟩ := parameters_cut hcut params' hparams
          obtain ⟨hs, ht⟩ := ihr result' hus hvs (List.append_cancel_left hrest)
          exact ⟨by rw [hps, hs], by rw [hps, ht]⟩
      | ofUnion s' t' operand' =>
          have hs : s'.toList ++ vs =
              '(' :: ((parametersText ps).toList ++ ')' :: (" => ".toList ++ (s.toList ++ us))) := by
            simpa using he.symm
          exact absurd (functionHead_parametersText ps _) (operand'.ne_function nofun hs)
  | ofUnion s t operand ih =>
      cases h' with
      | function ps' s' t' params' result' =>
          have hs : s.toList ++ us =
              '(' :: ((parametersText ps').toList ++ ')' :: (" => ".toList ++ (s'.toList ++ vs))) := by
            simpa using he
          exact absurd (functionHead_parametersText ps' _) (operand.ne_function nofun hs)
      | ofUnion s' t' operand' => exact ih operand' hus hvs he
  | union xs nonempty operands ih =>
      cases h' with
      | union ys nonempty' operands' =>
          have hcut : Cuts .intersection xs := by
            intro x hx y hy us vs hus hvs he
            exact Prod.ext_iff.2 (ih x hx hy hus hvs he)
          obtain ⟨rfl, _⟩ := operands_cut hcut nonempty nonempty' operands' (fun ws => (Ends.separator ws).1)
            hus.ofUnion.1 hvs.ofUnion.1 hus.ofUnion.2 hvs.ofUnion.2 he
          exact ⟨rfl, rfl⟩
  | intersection xs nonempty operands ih =>
      cases h' with
      | intersection ys nonempty' operands' =>
          have hcut : Cuts .array xs := by
            intro x hx y hy us vs hus hvs he
            exact Prod.ext_iff.2 (ih x hx hy hus hvs he)
          obtain ⟨rfl, _⟩ := operands_cut hcut nonempty nonempty' operands' (fun ws => (Ends.separator ws).2)
            hus.ofIntersection.1 hvs.ofIntersection.1 hus.ofIntersection.2 hvs.ofIntersection.2 he
          exact ⟨rfl, rfl⟩
  | array n s t elem ih =>
      cases h' with
      | array n' s' t' elem' =>
          simp only [String.toList_append, List.append_assoc] at he
          obtain ⟨rfl, rfl⟩ := ih elem' (hus.brackets n) (hvs.brackets n') he
          obtain ⟨rfl, _⟩ := brackets_cut hus.not_brackets hvs.not_brackets (List.append_cancel_left he)
          exact ⟨rfl, rfl⟩
  | primitive p =>
      cases h' with
      | primitive q => exact keyword_cut he ▸ ⟨rfl, rfl⟩
      | param | emptyObject | object | emptyIntersection | parens => simp [keyword_append_ne] at he
  | param n =>
      cases h' with
      | param n' =>
          simp only [String.toList_append, List.append_assoc] at he
          obtain ⟨hn, _⟩ := repr_cut (List.append_cancel_left he) hus.1 hvs.1
          exact UInt16.toNat_inj.1 hn ▸ ⟨rfl, rfl⟩
      | primitive | emptyObject | object | emptyIntersection | parens =>
          simp [ne_keyword_append] at he
  | emptyObject =>
      cases h' with
      | emptyObject => exact ⟨rfl, rfl⟩
      | primitive | param | object | emptyIntersection | parens =>
          simp [ne_keyword_append] at he
  | object ms nonempty names types ih =>
      cases h' with
      | object ns nonempty' names' types' =>
          have hcut : Cuts .type (ms.map (·.type)) := by
            intro x hx y hy us vs hus hvs he
            obtain ⟨m, hm, rfl⟩ := List.mem_map.1 hx
            exact Prod.ext_iff.2 (ih m hm hy hus hvs he)
          obtain ⟨rfl, _⟩ := members_cut nonempty nonempty' hcut types' names names' (by simpa using he)
          exact ⟨rfl, rfl⟩
      | primitive | param | emptyObject | emptyIntersection | parens =>
          simp [ne_keyword_append] at he
  | emptyIntersection =>
      cases h' with
      | emptyIntersection => exact ⟨rfl, rfl⟩
      | primitive | param | emptyObject | object => simp [ne_keyword_append] at he
      | parens s' t' inner' =>
          have hs : "empty".toList ++ (" intersection)".toList ++ us) = s'.toList ++ ')' :: vs := by
            simpa using he
          exact absurd ⟨_, hs⟩ (inner'.not_functionHead _).2
  | parens s t inner ih =>
      cases h' with
      | parens s' t' inner' =>
          obtain ⟨rfl, rfl⟩ := ih inner' (.parenthesis us) (.parenthesis vs) (by simpa using he)
          exact ⟨rfl, rfl⟩
      | primitive | param | emptyObject | object => simp [ne_keyword_append] at he
      | emptyIntersection =>
          have hs : "empty".toList ++ (" intersection)".toList ++ vs) = s.toList ++ ')' :: us := by
            simpa using he.symm
          exact absurd ⟨_, hs⟩ (inner.not_functionHead _).2

theorem Spells.unique {c : Category} {s : String} {t t' : Ty} (h : Spells c s t) (h' : Spells c s t') :
    t = t' :=
  (h.cut h' (.nil c) (.nil c) rfl).2

end InterfaceCheck
