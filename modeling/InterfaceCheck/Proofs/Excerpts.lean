import InterfaceCheck.Proofs.ClauseParts
import InterfaceCheck.Proofs.Cut
import InterfaceCheck.Proofs.Pruning
import InterfaceCheck.Ty.Display

namespace InterfaceCheck

namespace Phrase

theorem infix_parameter (i : Nat) (p : Phrase) : p.text.toList <:+: (parameter i p).toList := by
  rw [parameter, String.toList_append]
  exact (p.infix_inPlace .arrow).trans (List.suffix_append _ _).isInfix

theorem infix_member (m : Member Phrase) : m.type.text.toList <:+: (member m).toList := by
  rw [member, String.toList_append]
  exact (m.type.infix_inPlace .arrow).trans (List.suffix_append _ _).isInfix

theorem infix_operands {ps : List Phrase} {p : Phrase} (h : p ∈ ps) (sep : String) (place : Binding) :
    p.text.toList <:+: (sep.intercalate (ps.map (inPlace place))).toList :=
  (p.infix_inPlace place).trans (infix_intercalate (List.mem_map_of_mem h))

theorem infix_ofShape {s : Shape Phrase} {p : Phrase} (h : p ∈ s.children) :
    p.text.toList <:+: (ofShape s).text.toList := by
  cases s with
  | param | primitive => exact absurd h List.not_mem_nil
  | array e =>
      rw [List.mem_singleton.1 h, ofShape, String.toList_append]
      exact (e.infix_inPlace .atom).trans (List.prefix_append _ _).isInfix
  | function ps r =>
      rcases List.mem_append.1 h with h | h
      · obtain ⟨i, hi, rfl⟩ := List.mem_iff_getElem.1 h
        have hmem : parameter i ps[i] ∈ ps.mapIdx parameter := List.mem_mapIdx.2 ⟨i, hi, rfl⟩
        rw [ofShape, String.append_assoc]
        exact ((infix_parameter i ps[i]).trans (infix_intercalate hmem)).trans (infix_enclosed ..)
      · rw [List.mem_singleton.1 h, ofShape, String.toList_append]
        exact (r.infix_inPlace .arrow).trans (List.suffix_append _ _).isInfix
  | object ms =>
      obtain ⟨m, hm, rfl⟩ := List.mem_map.1 h
      obtain ⟨x, xs, rfl⟩ := List.exists_cons_of_ne_nil (List.ne_nil_of_mem hm)
      exact ((infix_member m).trans (infix_intercalate (List.mem_map_of_mem hm))).trans (infix_enclosed ..)
  | union ts => exact infix_operands h " | " .intersection
  | intersection ts =>
      obtain ⟨x, xs, rfl⟩ := List.exists_cons_of_ne_nil (List.ne_nil_of_mem h)
      exact infix_operands h " & " .atom

end Phrase

namespace Ty

theorem infix_display {t u : Ty} (h : u ∈ t.nodes) : u.display.toList <:+: t.display.toList := by
  induction t using ind with
  | step t ih =>
      rw [nodes_eq, List.mem_cons, List.mem_flatMap] at h
      rcases h with rfl | ⟨c, hc, hu⟩
      · exact List.infix_refl _
      · have hchild : c.display.toList <:+: t.display.toList := by
          rw [display, display, phrase_eq t]
          exact Phrase.infix_ofShape ((Shape.children_map ..).symm ▸ List.mem_map_of_mem hc)
        exact (ih c hc hu).trans hchild

theorem mem_nodes_of_partAt? {t u : Ty} {p : List Nat} (h : t.partAt? p = some u) : u ∈ t.nodes := by
  rw [partAt?_eq_walkAt?, walkAt?_eq_some_iff] at h
  exact mem_nodes_iff.2 ⟨p, h.1⟩

end Ty

theorem Clause.quotes_of_problem? {c : Clause} {base offending : String} {offence : Offence}
    {path : List Nat} {span : Span} (h : c.problem? = some (.invalidBase base offending offence path span)) :
    base = c.type.display ∧ offending.toList <:+: base.toList ∧ (path = [] → offending = base) := by
  obtain ⟨r, hr, heq⟩ := problem?_eq_some_iff.1 h
  cases heq
  have hreached := (Ty.blames_iff.2 hr).reached
  refine ⟨rfl, Ty.infix_display (Ty.mem_nodes_of_partAt? hreached), ?_⟩
  intro hpath
  rw [hpath, Ty.partAt?_nil] at hreached
  rw [Option.some.inj hreached]

namespace Declaration

/-- The text of a type quotes every type that a walk through it comes to. So does the text of a base in the
errors of a check: the part at fault is quoted from it, and is all of it if there is no path. -/
theorem display_quotes_nodes :
    (∀ t u : Ty, u ∈ t.nodes → u.display.toList <:+: t.display.toList) ∧
    ∀ (d : Declaration) es, d.check = .error es → ∀ e ∈ es, ∀ base offending offence path span,
      e.problem = .invalidBase base offending offence path span →
        offending.toList <:+: base.toList ∧ (path = [] → offending = base) := by
  refine ⟨fun t u => Ty.infix_display, ?_⟩
  intro d es hes e he base offending offence path span hp
  obtain ⟨c, _, hc⟩ := exists_clause_of_mem_errors hes he (by rw [hp]; rfl)
  rw [hp] at hc
  exact (Clause.quotes_of_problem? hc).2

def callers : Ty :=
  .intersection [.object [⟨"\x7d & \x7b", .param 0⟩],
    .intersection [.emptyObject, .array (.union [.function [] (.primitive .void), .primitive .null])]]

def called : Declaration := ⟨"D", ⟨0, 1⟩, [⟨callers, ⟨2, 3⟩⟩, ⟨.array callers, ⟨4, 5⟩⟩], []⟩

theorem display_quotes_callers :
    Ty.function [] (.primitive .void) ∈ callers.nodes ∧ "() => void".toList <:+: callers.display.toList ∧
    called.check = .error
      [⟨"D", .invalidBase callers.display "((() => void) | null)[]" .array [1, 1] ⟨2, 3⟩⟩,
        ⟨"D", .invalidBase (Ty.array callers).display (Ty.array callers).display .array [] ⟨4, 5⟩⟩] ∧
    "((() => void) | null)[]".toList <:+: callers.display.toList := by
  obtain ⟨hnodes, herrors⟩ := display_quotes_nodes
  have hmem : Ty.function [] (.primitive .void) ∈ callers.nodes := by decide
  have hcheck : called.check = .error
      [⟨"D", .invalidBase callers.display "((() => void) | null)[]" .array [1, 1] ⟨2, 3⟩⟩,
        ⟨"D", .invalidBase (Ty.array callers).display (Ty.array callers).display .array [] ⟨4, 5⟩⟩] :=
    check_eq_error_iff.2 ⟨by decide, by decide⟩
  have hdisplay : (Ty.function [] (.primitive .void)).display = "() => void" := by decide
  have hpiece := hnodes callers _ hmem
  have hquoted := herrors called _ hcheck _ List.mem_cons_self _ _ _ _ _ rfl
  rw [hdisplay] at hpiece
  exact ⟨hmem, hpiece, hcheck, hquoted.1⟩

end Declaration

end InterfaceCheck
