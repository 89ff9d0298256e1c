/-
  TestScaffold.Proofs.Catalogue.Identifiers — what is found has the name of an identifier.

    * `named_of_mem_functionsAt` — a function is found under a name of its tree;
    * `isIdentifier_of_mem_scan` — so its name is one that the source spells;
    * `newline_not_mem_of_mem_scan` — which ends with its line.
-/
import TestScaffold.Proofs.Catalogue.Walk
import TestScaffold.Proofs.Python.Names

namespace TestScaffold

open Python

theorem name_of_describe? {around : Enclosing} {label : Label} {f : Function}
    (h : describe? around label = some f) : label.name? = some f.name := by
  unfold describe? at h
  split at h
  · rename_i name _ hname
    split at h
    · cases h
    · obtain ⟨scope, -, rfl⟩ := Option.map_eq_some_iff.mp h
      exact hname
  · cases h

mutual

/-- What holds of the names in a tree holds of those of its functions. -/
theorem named_of_mem_functionsAt {P : String → Prop} (around : Enclosing) (node : Node)
    (hnode : node.Named P) {f : Function} (h : f ∈ functionsAt around node) : P f.name := by
  obtain ⟨label, children⟩ := node
  rw [functionsAt] at h
  rcases List.mem_append.mp h with h | h
  · exact hnode.1 f.name (name_of_describe? (Option.mem_toList.mp h))
  · exact named_of_mem_functionsAmong _ children hnode.2 h

theorem named_of_mem_functionsAmong {P : String → Prop} (around : Enclosing) (nodes : List Node)
    (hnodes : NodesNamed P nodes) {f : Function} (h : f ∈ functionsAmong around nodes) :
    P f.name := by
  cases nodes with
  | nil => exact absurd h List.not_mem_nil
  | cons node rest =>
      rw [functionsAmong] at h
      rcases List.mem_append.mp h with h | h
      · exact named_of_mem_functionsAt around node hnodes.1 h
      · exact named_of_mem_functionsAmong around rest hnodes.2 h

end

/-- **A function is found under an identifier**, whatever the source. -/
theorem isIdentifier_of_mem_scan {source : String} {functions : List Function}
    (h : scan source = .ok functions) {f : Function} (hf : f ∈ functions) :
    isIdentifier f.name = true := by
  unfold scan at h
  simp only at h
  split at h
  · cases h
  · cases h
    rw [catalogue_eq] at hf
    exact named_of_mem_functionsAt .module _ (parse_named source.toList) hf

/-- No identifier has a line feed. -/
theorem newline_not_mem_of_isIdentifier {text : String} (h : isIdentifier text = true) :
    '\n' ∉ text.toList := by
  obtain ⟨c, rest, -, -, hall⟩ := chars_of_isName (Bool.and_eq_true_iff.mp h).1
  intro hmem
  exact absurd (List.all_eq_true.mp hall '\n' hmem) (by decide)

theorem newline_not_mem_of_mem_scan {source : String} {functions : List Function}
    (h : scan source = .ok functions) {f : Function} (hf : f ∈ functions) :
    '\n' ∉ f.name.toList :=
  newline_not_mem_of_isIdentifier (isIdentifier_of_mem_scan h hf)

end TestScaffold
