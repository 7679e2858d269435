import Mathlib.Data.List.DropRight
import OperandCleanup.Text.Blank

/-!
# Blanks at the ends

What is left when the blanks at the end are taken away is a beginning of the text, the rest of which
is blank. Blanks at the end make no difference to it. The blanks at the beginning come off in the
same way, and a text that neither begins nor ends with a blank stays.
-/

namespace OperandCleanup.Text

/-- Whether a text neither begins nor ends with a blank. -/
structure IsTrimmed (cs : List Char) : Prop where
  head : ∀ c ∈ cs.head?, isBlank c = false
  last : ∀ c ∈ cs.getLast?, isBlank c = false

theorem all_not_isBlank_iff {found : Option Char} :
    found.all (!isBlank ·) = true ↔ ∀ c ∈ found, isBlank c = false := by
  cases found <;> simp

instance (cs : List Char) : Decidable (IsTrimmed cs) :=
  decidable_of_iff (cs.head?.all (!isBlank ·) = true ∧ cs.getLast?.all (!isBlank ·) = true)
    ⟨fun h => ⟨all_not_isBlank_iff.mp h.1, all_not_isBlank_iff.mp h.2⟩,
      fun h => ⟨all_not_isBlank_iff.mpr h.head, all_not_isBlank_iff.mpr h.last⟩⟩

/-! ## The end of a text -/

/-- A text is what is left of it and blanks. -/
theorem exists_trimmedRight_append (cs : List Char) :
    ∃ blanks, (∀ c ∈ blanks, isBlank c = true) ∧ cs = trimmedRight cs ++ blanks := by
  refine ⟨cs.rtakeWhile isBlank, fun c hc => List.mem_rtakeWhile_imp hc, ?_⟩
  rw [trimmedRight, List.rtakeWhile, ← List.reverse_append, List.takeWhile_append_dropWhile,
    List.reverse_reverse]

theorem trimmedRight_isPrefix (cs : List Char) : trimmedRight cs <+: cs :=
  List.rdropWhile_prefix isBlank cs

/-- Blanks at the end make no difference. -/
theorem trimmedRight_append_of_blank (cs : List Char) {blanks : List Char}
    (h : ∀ c ∈ blanks, isBlank c = true) : trimmedRight (cs ++ blanks) = trimmedRight cs := by
  have hblanks : ∀ c ∈ blanks.reverse, isBlank c = true := fun c hc => h c (List.mem_reverse.mp hc)
  rw [trimmedRight, List.reverse_append, List.dropWhile_append_of_pos hblanks, trimmedRight]

/-- A text that ends with something else than a blank stays. -/
theorem trimmedRight_eq_self {cs : List Char} (h : ∀ c ∈ cs.getLast?, isBlank c = false) :
    trimmedRight cs = cs := by
  refine List.rdropWhile_eq_self_iff.mpr fun hne => ?_
  rw [h _ (List.getLast?_eq_some_getLast hne)]
  exact Bool.false_ne_true

/-- What is left does not end with a blank. -/
theorem isBlank_getLast?_trimmedRight (cs : List Char) :
    ∀ c ∈ (trimmedRight cs).getLast?, isBlank c = false := by
  intro c hc
  obtain ⟨hne, rfl⟩ := List.mem_getLast?_eq_getLast hc
  exact Bool.eq_false_iff.mpr (List.rdropWhile_last_not isBlank cs hne)

/-! ## Both ends -/

/-- A trimmed text is trimmed. -/
theorem isTrimmed_trim (s : String) : IsTrimmed (trim s).toList := by
  rw [trim, String.toList_ofList]
  refine ⟨fun c hc => ?_, isBlank_getLast?_trimmedRight _⟩
  have hhead : (s.toList.dropWhile isBlank).head? = some c := by
    obtain ⟨rest, hrest⟩ := trimmedRight_isPrefix (s.toList.dropWhile isBlank)
    rw [← hrest, List.head?_append, Option.mem_def.mp hc, Option.some_or]
  have hnot := List.head?_dropWhile_not isBlank s.toList
  rw [hhead] at hnot
  simpa using hnot

/-- What holds of the characters of a text holds of those that are left. -/
theorem forall_mem_trim {p : Char → Prop} {s : String} (h : ∀ c ∈ s.toList, p c) :
    ∀ c ∈ (trim s).toList, p c := by
  rw [trim, String.toList_ofList]
  exact fun c hc =>
    h c ((List.dropWhile_sublist _).subset ((trimmedRight_isPrefix _).subset hc))

/-- Something is left of a text that begins with something else than a blank. -/
theorem trim_ne_empty {s : String} {c : Char} (hhead : s.toList.head? = some c)
    (hc : isBlank c = false) : trim s ≠ "" := by
  obtain ⟨rest, hs⟩ := List.head?_eq_some_iff.mp hhead
  obtain ⟨blanks, hblanks, hsplit⟩ := exists_trimmedRight_append s.toList
  intro hempty
  have hleft : trimmedRight s.toList = [] := by
    have hlist := congrArg String.toList hempty
    rw [trim, String.toList_ofList, hs, List.dropWhile_cons_of_neg (by simp [hc])] at hlist
    rw [hs, hlist]
    rfl
  rw [hleft, List.nil_append, hs] at hsplit
  have hblank := hblanks c (by rw [← hsplit]; exact List.mem_cons_self)
  rw [hc] at hblank
  cases hblank

/-- Blanks around a text that neither begins nor ends with one come off. -/
theorem IsTrimmed.trim_append {cs before after : List Char} (h : IsTrimmed cs)
    (hbefore : ∀ c ∈ before, isBlank c = true) (hafter : ∀ c ∈ after, isBlank c = true) :
    trim (String.ofList (before ++ cs ++ after)) = String.ofList cs := by
  have hhead : (cs ++ after).dropWhile isBlank = (if cs = [] then [] else cs ++ after) := by
    cases cs with
    | nil => simpa using hafter
    | cons c rest => simp [h.head c rfl]
  rw [trim, String.toList_ofList, List.append_assoc, List.dropWhile_append_of_pos hbefore, hhead]
  split
  case isTrue hnil => rw [hnil]; rfl
  case isFalse => rw [trimmedRight_append_of_blank cs hafter, trimmedRight_eq_self h.last]

/-- A text without blanks neither begins nor ends with one. -/
theorem isTrimmed_of_forall {cs : List Char} (h : ∀ c ∈ cs, isBlank c = false) : IsTrimmed cs :=
  ⟨fun c hc => h c (List.mem_of_mem_head? hc), fun c hc => h c (List.mem_of_mem_getLast? hc)⟩

/-- Whatever stands between two texts, the beginning of the first and the end of the second are
those of all. -/
theorem IsTrimmed.append {first second : List Char} (hfirst : IsTrimmed first)
    (hsecond : IsTrimmed second) (hne : first ≠ []) (hne' : second ≠ []) (middle : List Char) :
    IsTrimmed (first ++ middle ++ second) := by
  refine ⟨fun c hc => hfirst.head c ?_, fun c hc => hsecond.last c ?_⟩
  · rwa [List.append_assoc, List.head?_append_of_ne_nil _ hne] at hc
  · rwa [List.getLast?_append_of_ne_nil _ hne'] at hc

end OperandCleanup.Text
