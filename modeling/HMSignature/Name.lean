/-!
# Qualified names

The name of a type or of a type class may carry a namespace in front, with slashes as separators. Signatures use the
short name, the part after the last slash.

1. `shortName_append`: what stands before the last slash does not count;
2. `shortName_of_no_slash`: a name without a slash is its own short name.
-/

namespace HMSignature

/-- The part of a name after its last slash. -/
def shortName (name : String) : String :=
  String.ofList (name.toList.reverse.takeWhile (· ≠ '/')).reverse

theorem ne_slash_of_not_mem {name : String} (plain : '/' ∉ name.toList) :
    ∀ c ∈ name.toList.reverse, decide (c ≠ '/') = true := by
  intro c member
  rw [List.mem_reverse] at member
  rw [decide_eq_true_eq]
  rintro rfl
  exact plain member

theorem shortName_append {scope name : String} (plain : '/' ∉ name.toList) :
    shortName (scope ++ "/" ++ name) = name := by
  simp only [shortName, String.toList_append, List.reverse_append]
  rw [List.takeWhile_append_of_pos (ne_slash_of_not_mem plain)]
  simp

theorem shortName_of_no_slash {name : String} (plain : '/' ∉ name.toList) :
    shortName name = name := by
  have whole : (name.toList.reverse ++ []).takeWhile (· ≠ '/') = name.toList.reverse ++ [] :=
    List.takeWhile_append_of_pos (ne_slash_of_not_mem plain)
  rw [List.append_nil] at whole
  rw [shortName, whole, List.reverse_reverse, String.ofList_toList]

end HMSignature
