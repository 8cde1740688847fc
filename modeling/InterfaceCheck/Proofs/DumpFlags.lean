import InterfaceCheck.Proofs.Comparison
import InterfaceCheck.Proofs.Dump
import InterfaceCheck.Proofs.Flags

namespace InterfaceCheck

namespace Text

inductive Mode
  | outside
  | inside
  | escaped

def Mode.next : Mode → Char → Mode
  | outside, c => if c = '"' then inside else outside
  | inside, c => if c = '"' then outside else if c = '\\' then escaped else inside
  | escaped, _ => inside

/-- A text without its string literals, each of which leaves its first quote. -/
def skim : Mode → List Char → List Char
  | _, [] => []
  | .outside, c :: cs => c :: skim (Mode.outside.next c) cs
  | .inside, c :: cs => skim (Mode.inside.next c) cs
  | .escaped, c :: cs => skim (Mode.escaped.next c) cs

theorem skim_outside {s : List Char} (hquote : '"' ∉ s) (cs : List Char) :
    skim .outside (s ++ cs) = s ++ skim .outside cs := by
  induction s with
  | nil => rfl
  | cons c s ih =>
      rw [List.mem_cons, not_or] at hquote
      simp only [List.cons_append, skim, Mode.next, if_neg (Ne.symm hquote.1), ih hquote.2]

theorem skim_inside {s : List Char} (hquote : '"' ∉ s) (hbackslash : '\\' ∉ s) (cs : List Char) :
    skim .inside (s ++ cs) = skim .inside cs := by
  induction s with
  | nil => rfl
  | cons c s ih =>
      rw [List.mem_cons, not_or] at hquote hbackslash
      simp only [List.cons_append, skim, Mode.next, if_neg (Ne.symm hquote.1), if_neg (Ne.symm hbackslash.1),
        ih hquote.2 hbackslash.2]

theorem Escaped.skim {c : Char} {s : List Char} (h : Escaped c s) (cs : List Char) :
    skim .inside (s ++ cs) = Text.skim .inside cs := by
  cases h with
  | plain quote backslash =>
      exact skim_inside (mt List.mem_singleton.1 quote.symm) (mt List.mem_singleton.1 backslash.symm) cs
  | short e mem => rfl
  | code =>
      have hcode (m : Char) (hm : m ∈ ['"', '\\']) : m ∉ '\x7b' :: (Nat.toDigits 16 c.toNat ++ ['\x7d']) := by
        have hdigits := notMem_toDigits (List.mem_append_left ['\x7d'] hm) c.toNat
        simp only [List.mem_cons, List.not_mem_nil, or_false] at hm
        rcases hm with rfl | rfl <;> simp [hdigits]
      exact skim_inside (hcode _ (by decide)) (hcode _ (by decide)) cs

theorem skim_literal (s : String) (cs : List Char) :
    skim .outside ((literal s).toList ++ cs) = '"' :: skim .outside cs := by
  have hbody (ds : List Char) :
      skim .inside (ds.flatMap (fun c => (escapeChar c).toList) ++ '"' :: cs) = skim .outside cs := by
    induction ds with
    | nil => rfl
    | cons d ds ih => rw [List.flatMap_cons, List.append_assoc, (escaped_escapeChar d).skim, ih]
  rw [toList_literal, List.cons_append, List.append_assoc]
  exact congrArg ('"' :: ·) (hbody s.toList)

end Text

def Kind.all : List Kind := [param, primitive, array, function, object, union, intersection]

def Kind.ofWord? (w : List Char) : Option Kind := all.find? fun k => k.word.toList == w

def kindsIn (cs : List Char) : List Kind :=
  ((Text.skim .outside cs).splitOnP fun c => !c.isAlpha).filterMap Kind.ofWord?

theorem kindsIn_of_skim {s us cs : List Char} {c : Char} (hc : c.isAlpha = false)
    (h : Text.skim .outside s = us ++ c :: Text.skim .outside cs) :
    kindsIn s = (us.splitOnP fun c => !c.isAlpha).filterMap Kind.ofWord? ++ kindsIn cs := by
  rw [kindsIn, h, List.splitOnP_append_cons us _ (by rw [hc, Bool.not_false]), List.filterMap_append, kindsIn]

/-- A text that names the given kinds, whatever stands behind it. -/
def Names (s : List Char) (ks : List Kind) : Prop := ∀ cs, kindsIn (s ++ cs) = ks ++ kindsIn cs

namespace Names

theorem nil : Names [] [] := fun _ => rfl

theorem append {s t : List Char} {ks ls : List Kind} (hs : Names s ks) (ht : Names t ls) :
    Names (s ++ t) (ks ++ ls) := by
  intro cs
  rw [List.append_assoc, hs, ht, List.append_assoc]

theorem enclose {before s after : String} {ks ls : List Kind} (hbefore : Names before.toList ks)
    (hs : Names s.toList ls) (hafter : Names after.toList []) :
    Names (before ++ s ++ after).toList (ks ++ ls) := by
  rw [String.toList_append, String.toList_append, ← List.append_nil (ks ++ ls)]
  exact (hbefore.append hs).append hafter

theorem kindsIn_eq {s : List Char} {ks : List Kind} (h : Names s ks) : kindsIn s = ks := by
  have hnil : kindsIn [] = [] := rfl
  rw [← List.append_nil s, h [], hnil, List.append_nil]

theorem plain {s : List Char} {ks : List Kind}
    (h : '"' ∉ s ∧ s.getLast?.all (fun c => !c.isAlpha) = true ∧ kindsIn s = ks) : Names s ks := by
  obtain ⟨hquote, hlast, rfl⟩ := h
  rcases List.eq_nil_or_concat' s with rfl | ⟨s, c, rfl⟩
  · exact nil
  · have hnames : Names (s ++ [c]) ((s.splitOnP fun c => !c.isAlpha).filterMap Kind.ofWord?) := by
      intro cs
      apply kindsIn_of_skim (by simpa using hlast)
      rw [Text.skim_outside hquote, List.append_assoc, List.singleton_append]
    rw [hnames.kindsIn_eq]
    exact hnames

theorem literal (s : String) : Names (Text.literal s).toList [] :=
  fun cs => @kindsIn_of_skim _ [] cs '"' (by decide) (Text.skim_literal s cs)

theorem digits {s : List Char} (h : ∀ c ∈ s, c.isDigit = true) : Names s [] := by
  induction s with
  | nil => exact nil
  | cons c s ih =>
      obtain ⟨hdigit, hs⟩ := List.forall_mem_cons.1 h
      have hquote : '"' ∉ [c] := by
        rw [List.mem_singleton]
        rintro rfl
        exact absurd hdigit (by decide)
      have hletter : c.isAlpha = false := by
        have hbefore : ∀ n ≤ '9'.toNat, (Char.ofNat n).isAlpha = false := by decide
        rw [← Char.ofNat_toNat c]
        exact hbefore c.toNat (Char.isDigit_iff_toNat.1 hdigit).2
      have hc : Names [c] [] := fun cs =>
        @kindsIn_of_skim _ [] cs c hletter (Text.skim_outside hquote cs)
      exact hc.append (ih hs)

theorem intercalate {α : Type} {text : α → List Char} {ks : α → List Kind} {sep : List Char}
    (hsep : Names sep []) {xs : List α} (h : ∀ x ∈ xs, Names (text x) (ks x)) :
    Names (sep.intercalate (xs.map text)) (xs.flatMap ks) := by
  induction xs with
  | nil => exact nil
  | cons x xs ih =>
      rw [List.forall_mem_cons] at h
      cases xs with
      | nil => simpa using h.1
      | cons y ys =>
          rw [List.map_cons, List.map_cons, List.intercalate_cons_cons, List.append_assoc, List.flatMap_cons]
          exact h.1.append (hsep.append (ih h.2))

end Names

namespace Shape

variable {α : Type} {text : α → String} {ks : α → List Kind}

theorem names_dumpList {xs : List α} (h : ∀ x ∈ xs, Names (text x).toList (ks x)) :
    Names (dumpList (xs.map text)).toList (xs.flatMap ks) := by
  have hitems : Names (", ".intercalate (xs.map text)).toList (xs.flatMap ks) := by
    rw [String.toList_intercalate, List.map_map]
    exact .intercalate (.plain (by decide)) h
  have hopen : Names "[".toList [] := .plain (by decide)
  exact .enclose hopen hitems (.plain (by decide))

theorem names_dumpMember {m : Member α} (h : Names (text m.type).toList (ks m.type)) :
    Names (dumpMember (m.map text)).toList (ks m.type) := by
  have hopen : Names "(".toList [] := .plain (by decide)
  have hsep : Names ", ".toList [] := .plain (by decide)
  exact .enclose (.enclose hopen (.literal m.name) hsep) h (.plain (by decide))

theorem names_dump {s : Shape α} (h : ∀ c ∈ s.children, Names (text c).toList (ks c)) :
    Names (s.map text).dump.toList (s.kind :: s.children.flatMap ks) := by
  have hclose : Names ")".toList [] := .plain (by decide)
  cases s with
  | param n =>
      have hword : Names "TypeParam(".toList [.param] := .plain (by decide)
      exact .enclose hword (.digits fun _ => isDigit_of_mem_repr) hclose
  | primitive p =>
      have hword : Names "Primitive(".toList [.primitive] := .plain (by decide)
      have hname : Names (p.name ++ ")").toList [] := by
        cases p <;> exact .plain (by decide)
      rw [map, dump_primitive, String.append_assoc, String.toList_append]
      exact hword.append hname
  | array e =>
      have hword : Names "Array(".toList [.array] := .plain (by decide)
      rw [children, List.flatMap_singleton]
      exact .enclose hword (h e List.mem_cons_self) hclose
  | function ps r =>
      have hword : Names "Function \x7b params: ".toList [.function] := .plain (by decide)
      have hps := names_dumpList fun p hp => h p (List.mem_append_left _ hp)
      have hret : Names ", ret: ".toList [] := .plain (by decide)
      have hr := h r (List.mem_append_right _ (List.mem_singleton_self r))
      rw [children, List.flatMap_append, List.flatMap_singleton]
      exact .enclose (.enclose hword hps hret) hr (.plain (by decide))
  | object ms =>
      have hword : Names "Object(".toList [.object] := .plain (by decide)
      have hms : Names (dumpList (ms.map fun m => dumpMember (m.map text))).toList
          (ms.flatMap fun m => ks m.type) :=
        names_dumpList fun m hm => names_dumpMember (h m.type (List.mem_map_of_mem hm))
      rw [map, dump_object, List.map_map, children, List.flatMap_map]
      exact .enclose hword hms hclose
  | union ts =>
      have hword : Names "Union(".toList [.union] := .plain (by decide)
      exact .enclose hword (names_dumpList h) hclose
  | intersection ts =>
      have hword : Names "Intersection(".toList [.intersection] := .plain (by decide)
      exact .enclose hword (names_dumpList h) hclose

end Shape

/-- The flags of a node, computed from a text that describes it. -/
def flagsIn (text : String) : Flags where
  hasUnion := .union ∈ kindsIn text.toList
  hasParam := .param ∈ kindsIn text.toList

namespace Ty

theorem names_dump (t : Ty) : Names t.dump.toList (t.nodes.map kind) := by
  induction t using ind with
  | step t ih =>
      have hopen : Names "Ty(TyData \x7b kind: ".toList [] := .plain (by decide)
      have hshape : Names (t.shape.map dump).dump.toList (t.kind :: t.children.flatMap (·.nodes.map kind)) :=
        Shape.names_dump ih
      have hflags : Names ", flags: TypeFlags(".toList [] := .plain (by decide)
      have hclose : Names (t.flags.dump ++ ") \x7d)").toList [] := by
        rcases t.flags with ⟨_ | _, _ | _⟩ <;> exact .plain (by decide)
      rw [dump_eq, nodes_eq, List.map_cons, List.map_flatMap, String.append_assoc, String.toList_append,
        ← List.append_nil (_ :: _)]
      exact .append (.enclose hopen hshape hflags) hclose

theorem kindsIn_kindText (t : Ty) : kindsIn t.kindText.toList = t.nodes.map kind := by
  have h := Shape.names_dump fun c (_ : c ∈ t.shape.children) => names_dump c
  rw [kindText, h.kindsIn_eq, nodes_eq, List.map_cons, List.map_flatMap]
  rfl

theorem flagsIn_kindText {t : Ty} (h : t.Interned) : flagsIn t.kindText = t.flags := by
  have hunion := hasUnion_iff h
  have hparam := hasParam_iff h
  rcases hflags : t.flags with ⟨u, p⟩
  rw [hflags] at hunion hparam
  simp only [flagsIn, kindsIn_kindText, List.mem_map, ← hunion, ← hparam, Bool.decide_eq_true]

/-- The text of a type tells the type, as the comparisons of types do. At every node it shows the flags
that follow from the text before them, and any node with that text has to carry these flags. -/
theorem dump_tells_type {t u : Ty} (ht : Made true t) (hu : Made true u) :
    (t.dump = u.dump ↔ t.tree = u.tree) ∧ (t.dump = u.dump ↔ same t u = true) ∧
    ∀ v ∈ t.nodes, v.dump.toList <:+: t.dump.toList ∧
      v.dump = "Ty(TyData \x7b kind: " ++ v.kindText ++ ", flags: TypeFlags(" ++
        (flagsIn v.kindText).dump ++ ") \x7d)" ∧
      ∀ s : Shape Ty, (s.map dump).dump = v.kindText → s.flags = flagsIn v.kindText := by
  have hi : t.Interned := Made.true_iff.1 ht
  refine ⟨?_, ?_, ?_⟩
  · rw [dump_inj, ← sameTree_iff_of_interned hi (Made.true_iff.1 hu), sameTree_iff]
  · rw [dump_inj, same_iff]
  · intro v hv
    have hflags : flagsIn v.kindText = v.flags := flagsIn_kindText (hi.of_mem_nodes hv)
    refine ⟨infix_dump hv, ?_, ?_⟩
    · rw [hflags]
      exact dump_eq v
    · intro s hs
      rw [hflags, shape_dump_inj hs, hi v hv]

def genuine : Ty := intern (.object [⟨"a", intern (.union [])⟩, ⟨"b", primitive .null⟩])

/-- An object with one member, whose name goes on like the text of `genuine` behind the name `a`. -/
def mimic : Ty :=
  object [⟨"a\", Ty(TyData \x7b kind: Union([]), flags: TypeFlags(HAS_UNION) \x7d)), (\"b", primitive .null⟩]

theorem dump_tells_genuine_from_mimic :
    Made true genuine ∧ Made true mimic ∧ genuine.dump ≠ mimic.dump ∧
    flagsIn genuine.kindText = ⟨true, false⟩ ∧ flagsIn mimic.kindText = ⟨false, false⟩ := by
  have hgenuine : Made true genuine := Made.true_iff.2 (by decide)
  have hmimic : Made true mimic := Made.true_iff.2 (by decide)
  obtain ⟨_, hsame, hnodes⟩ := dump_tells_type hgenuine hmimic
  obtain ⟨_, _, hnodes'⟩ := dump_tells_type hmimic hgenuine
  refine ⟨hgenuine, hmimic, ?_, ?_, ?_⟩
  · rw [Ne, hsame]
    decide
  · obtain ⟨_, _, hflags⟩ := hnodes genuine List.mem_cons_self
    rw [← hflags genuine.shape rfl]
    decide
  · obtain ⟨_, _, hflags⟩ := hnodes' mimic List.mem_cons_self
    rw [← hflags mimic.shape rfl]
    decide

end Ty

end InterfaceCheck
