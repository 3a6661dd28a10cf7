import AcceptanceBench.Data
import Mathlib.Data.List.DropRight
import Mathlib.Data.List.Infix

/-!
Line ends and trailing blanks. Expanding line ends is undone by folding them. Tidied text only grows
with the text that it is made of, and what stands in folded text on one line stands in the text
itself.
-/

namespace AcceptanceBench.Text

/-! ### Folding and expanding -/

theorem foldLines_cons {c : Char} {cs : List Char} (alone : c = '\r' → cs.head? ≠ some '\n') :
    foldLines (c :: cs) = c :: foldLines cs := by
  cases cs with
  | nil => simp [foldLines]
  | cons d ds =>
    by_cases pair : c = '\r' ∧ d = '\n'
    · obtain ⟨rfl, rfl⟩ := pair
      exact absurd rfl (alone rfl)
    · rw [foldLines]
      rintro _ rfl same
      cases same
      exact pair ⟨rfl, rfl⟩

theorem foldLines_pair (cs : List Char) :
    foldLines ('\r' :: '\n' :: cs) = '\n' :: foldLines cs := by
  rw [foldLines]

theorem head_expandLines (cs : List Char) : (expandLines cs).head? ≠ some '\n' := by
  cases cs with
  | nil => simp [expandLines]
  | cons c cs =>
    rw [expandLines]
    by_cases feed : c = '\n'
    · rw [if_pos feed]
      simp
    · rw [if_neg feed]
      simpa using feed

theorem foldLines_expandLines (cs : List Char) : foldLines (expandLines cs) = cs := by
  induction cs with
  | nil => rfl
  | cons c cs ih =>
    rw [expandLines]
    by_cases feed : c = '\n'
    · rw [if_pos feed, foldLines_pair, ih, feed]
    · rw [if_neg feed, foldLines_cons fun _ => head_expandLines cs, ih]

theorem expandLines_append (first second : List Char) :
    expandLines (first ++ second) = expandLines first ++ expandLines second := by
  induction first with
  | nil => rfl
  | cons c cs ih =>
    rw [List.cons_append, expandLines, expandLines, ih]
    split
    · rfl
    · rfl

/-! ### Trailing blanks -/

variable {p : Char → Bool}

theorem dropTrailing_isPrefix (p : Char → Bool) (cs : List Char) : dropTrailing p cs <+: cs :=
  List.rdropWhile_prefix p cs

theorem dropTrailing_append (p : Char → Bool) (first second : List Char) :
    dropTrailing p (first ++ second) =
      if dropTrailing p second = [] then dropTrailing p first
      else first ++ dropTrailing p second := by
  unfold dropTrailing
  rw [List.reverse_append, List.dropWhile_append]
  simp only [List.reverse_eq_nil_iff, List.isEmpty_iff]
  split
  · rfl
  · rw [List.reverse_append, List.reverse_reverse]

theorem dropTrailing_idem (p : Char → Bool) (cs : List Char) :
    dropTrailing p (dropTrailing p cs) = dropTrailing p cs :=
  List.rdropWhile_idempotent p cs

/-- What is left of some text is left of any text that it begins. -/
theorem dropTrailing_prefix_dropTrailing {cs ds : List Char} (begins : dropTrailing p cs <+: ds) :
    dropTrailing p cs <+: dropTrailing p ds := by
  obtain ⟨later, rfl⟩ := begins
  rw [dropTrailing_append, dropTrailing_idem]
  split
  · exact List.prefix_refl _
  · exact List.prefix_append ..

theorem dropTrailing_cons_isPrefix (p : Char → Bool) (c : Char) (cs : List Char) :
    dropTrailing p (c :: cs) <+: c :: dropTrailing p cs := by
  rw [← List.singleton_append, dropTrailing_append]
  split
  · rename_i nothing
    rw [nothing]
    exact dropTrailing_isPrefix p [c]
  · exact List.prefix_refl _

/-- A line end that the end of the text cuts in two has a blank as its first half. -/
theorem dropTrailing_foldLines_isPrefix (cs later : List Char) :
    dropTrailing isBlank (foldLines cs) <+: foldLines (cs ++ later) := by
  fun_induction foldLines cs with
  | case1 => exact List.nil_prefix
  | case2 rest ih =>
    rw [List.cons_append, List.cons_append, foldLines_pair]
    exact (dropTrailing_cons_isPrefix ..).trans ((List.prefix_cons_inj _).mpr ih)
  | case3 c rest other ih =>
    by_cases cut : c = '\r' ∧ (rest ++ later).head? = some '\n'
    · -- The carriage return is the last character, and nothing of it is left.
      obtain ⟨rfl, feed⟩ := cut
      cases rest with
      | nil => exact List.nil_prefix
      | cons d ds =>
        obtain rfl : d = '\n' := by simpa using feed
        exact (other ds rfl rfl).elim
    · rw [List.cons_append, foldLines_cons fun back feed => cut ⟨back, feed⟩]
      exact (dropTrailing_cons_isPrefix ..).trans ((List.prefix_cons_inj _).mpr ih)

/-! ### Text on one line -/

/-- Text without a line feed that folded text begins with, the text itself begins with. -/
theorem prefix_of_prefix_foldLines {part cs : List Char} (line : '\n' ∉ part)
    (begins : part <+: foldLines cs) : part <+: cs := by
  fun_induction foldLines cs generalizing part with
  | case1 => exact begins
  | case2 rest ih =>
    cases part with
    | nil => exact List.nil_prefix
    | cons d ds =>
      obtain ⟨rfl, -⟩ := List.cons_prefix_cons.mp begins
      exact absurd List.mem_cons_self line
  | case3 c rest other ih =>
    cases part with
    | nil => exact List.nil_prefix
    | cons d ds =>
      obtain ⟨rfl, onward⟩ := List.cons_prefix_cons.mp begins
      have tail : '\n' ∉ ds := fun feed => line (List.mem_cons_of_mem d feed)
      exact List.cons_prefix_cons.mpr ⟨rfl, ih tail onward⟩

/-- Text without a line feed that stands in folded text stands in the text itself. -/
theorem infix_of_infix_foldLines {part cs : List Char} (line : '\n' ∉ part)
    (stands : part <:+: foldLines cs) : part <:+: cs := by
  fun_induction foldLines cs with
  | case1 => exact stands
  | case2 rest ih =>
    have later : part <:+: rest → part <:+: '\r' :: '\n' :: rest := fun inner =>
      List.infix_cons (List.infix_cons inner)
    rcases List.infix_cons_iff.mp stands with begins | onward
    · cases part with
      | nil => exact List.nil_infix
      | cons d ds =>
        obtain ⟨rfl, -⟩ := List.cons_prefix_cons.mp begins
        exact absurd List.mem_cons_self line
    · exact later (ih onward)
  | case3 c rest other ih =>
    rcases List.infix_cons_iff.mp stands with begins | onward
    · have folded : foldLines (c :: rest) = c :: foldLines rest := by
        rw [foldLines]
        exact other
      exact (prefix_of_prefix_foldLines line (folded ▸ begins)).isInfix
    · exact List.infix_cons (ih onward)

end AcceptanceBench.Text
