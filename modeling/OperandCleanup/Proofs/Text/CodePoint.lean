import OperandCleanup.Text.CodePoint

/-!
# Marked texts

A marked text gives back the code points that it stands for, so different code points are marked
differently. Marked texts have the order of their code points, although a surrogate comes before
some of the characters that come before its mark.
-/

namespace OperandCleanup.CodePoint

/-- The character behind the mark is as far from it as the surrogate is from the first one. -/
theorem toNat_ofNat_mark (rank : Fin 0x800) :
    (Char.ofNat (mark.toNat + rank)).toNat = mark.toNat + rank := by
  have hmark : mark.toNat = 0xe000 := rfl
  rw [Char.ofNat, dif_pos (Or.inr ⟨by omega, by omega⟩)]
  rfl

/-- The character behind the mark tells the surrogate. -/
theorem ofMarked_rank (rank : Fin 0x800) :
    ofMarked (Char.ofNat (mark.toNat + rank)) = .surrogate rank := by
  have hcode := toNat_ofNat_mark rank
  rw [ofMarked, dif_pos (by omega)]
  exact congrArg surrogate (Fin.ext (by simp only [hcode]; omega))

/-- A character that is not the mark stands for itself. -/
theorem unmarked_cons_of_ne {c : Char} (h : c ≠ mark) (rest : List Char) :
    unmarked (c :: rest) = .char c :: unmarked rest := by
  cases rest with
  | nil => rfl
  | cons d rest => rw [unmarked, if_neg h]

/-- A code point in front of a marked text is found. -/
theorem unmarked_marked_append (code : CodePoint) (rest : List Char) :
    unmarked (code.marked ++ rest) = code :: unmarked rest := by
  cases code with
  | char c =>
    rw [marked]
    split
    · rename_i hmark
      rw [hmark]
      rfl
    · rename_i hmark
      exact unmarked_cons_of_ne hmark rest
  | surrogate rank =>
    rw [marked, List.cons_append, List.cons_append, unmarked, if_pos rfl, ofMarked_rank,
      List.nil_append]

/-- A marked text gives back its code points. -/
theorem unmarked_markedText (codes : List CodePoint) :
    unmarked (markedText codes).toList = codes := by
  rw [markedText, String.toList_ofList]
  induction codes with
  | nil => rfl
  | cons code codes ih => rw [List.flatMap_cons, unmarked_marked_append, ih]

/-- Different code points are marked differently. -/
theorem markedText_injective {codes others : List CodePoint}
    (h : markedText codes = markedText others) : codes = others := by
  rw [← unmarked_markedText codes, h, unmarked_markedText]

/-- What stands for code points is a marked text. -/
theorem isMarked_markedText (codes : List CodePoint) : isMarked (markedText codes) = true := by
  rw [isMarked, unmarked_markedText, beq_iff_eq]

/-- Without the mark a text is that of its characters. -/
theorem markedText_map_char {cs : List Char} (h : mark ∉ cs) :
    markedText (cs.map char) = String.ofList cs := by
  rw [markedText]
  congr 1
  induction cs with
  | nil => rfl
  | cons c cs ih =>
    rw [List.mem_cons, not_or] at h
    obtain ⟨hc, hcs⟩ := h
    rw [List.map_cons, List.flatMap_cons, ih hcs, marked, if_neg (Ne.symm hc)]
    rfl

/-- A text without the mark stands for its characters. -/
theorem unmarked_of_notMem {cs : List Char} (h : mark ∉ cs) : unmarked cs = cs.map char := by
  have hcodes := unmarked_markedText (cs.map char)
  rwa [markedText_map_char h, String.toList_ofList] at hcodes

/-! ## Order -/

/-- A character is no surrogate. -/
theorem toNat_lt_or_le (c : Char) : c.toNat < firstSurrogate ∨ mark.toNat ≤ c.toNat := by
  have hvalid : c.toNat < firstSurrogate ∨ 0xdfff < c.toNat ∧ c.toNat < 0x110000 := c.valid
  exact hvalid.imp_right fun h => h.1

/-- Code points of one number are the same. -/
theorem toNat_injective {code other : CodePoint} (h : code.toNat = other.toNat) : code = other := by
  have hfirst : firstSurrogate = 0xd800 := rfl
  have hmark : mark.toNat = 0xe000 := rfl
  cases code with
  | char c =>
    cases other with
    | char d => exact congrArg char (Char.toNat_inj.mp h)
    | surrogate rank =>
      have hc := toNat_lt_or_le c
      simp only [toNat] at h
      omega
  | surrogate rank =>
    cases other with
    | char d =>
      have hd := toNat_lt_or_le d
      simp only [toNat] at h
      omega
    | surrogate rank' => exact congrArg surrogate (Fin.ext (Nat.add_left_cancel h))

/-- A text whose first character is the smaller one is smaller. -/
theorem cons_lt_of_toNat_lt {c d : Char} (h : c.toNat < d.toNat) (rest rest' : List Char) :
    c :: rest < d :: rest' :=
  List.cons_lt_cons_iff.mpr (Or.inl (Char.lt_def.mpr (UInt32.lt_iff_toNat_lt.mpr h)))

/-- The first character that a character is marked with is the character. -/
theorem marked_char_append (c : Char) (rest : List Char) :
    ∃ more, (char c).marked ++ rest = c :: more := by
  rw [marked]
  split
  · rename_i hmark
    exact ⟨markItself :: rest, by rw [hmark]; rfl⟩
  · exact ⟨rest, rfl⟩

/-- Of two code points the one of the smaller number is marked by the smaller text, whatever
follows. -/
theorem marked_append_lt {code other : CodePoint} (h : code.toNat < other.toNat)
    (rest rest' : List Char) : code.marked ++ rest < other.marked ++ rest' := by
  have hfirst : firstSurrogate = 0xd800 := rfl
  have hmark : mark.toNat = 0xe000 := rfl
  have hitself : markItself.toNat = 0xf8ff := rfl
  -- Behind the mark the rank of a surrogate decides, and the mark itself comes last.
  have hbehind {c d : Char} (hlt : c.toNat < d.toNat) :
      mark :: c :: rest < mark :: d :: rest' :=
    List.cons_lt_cons_iff.mpr (Or.inr ⟨rfl, cons_lt_of_toNat_lt hlt rest rest'⟩)
  cases code with
  | char c =>
    obtain ⟨more, hcode⟩ := marked_char_append c rest
    rw [hcode]
    cases other with
    | char d =>
      obtain ⟨more', hother⟩ := marked_char_append d rest'
      rw [hother]
      exact cons_lt_of_toNat_lt h more more'
    | surrogate rank =>
      have hc := toNat_lt_or_le c
      simp only [toNat] at h
      exact cons_lt_of_toNat_lt (by omega) more _
  | surrogate rank =>
    have hrank := toNat_ofNat_mark rank
    cases other with
    | char d =>
      have hd := toNat_lt_or_le d
      simp only [toNat] at h
      rw [marked, marked]
      split
      · exact hbehind (by omega)
      · rename_i hne
        have hne : d.toNat ≠ mark.toNat := mt Char.toNat_inj.mp hne
        exact cons_lt_of_toNat_lt (by omega) _ _
    | surrogate rank' =>
      have hrank' := toNat_ofNat_mark rank'
      simp only [toNat] at h
      exact hbehind (by omega)

/-- What two texts start with alike does not decide which one is smaller. -/
theorem append_lt_append_left_iff (start rest rest' : List Char) :
    start ++ rest < start ++ rest' ↔ rest < rest' := by
  induction start with
  | nil => rfl
  | cons c start ih => rw [List.cons_append, List.cons_append, List.cons_lt_cons_self, ih]

/-- Marked texts have the order of their code points. -/
theorem markedText_lt_iff {codes others : List CodePoint} :
    markedText codes < markedText others ↔ codes.map toNat < others.map toNat := by
  change (markedText codes).toList < (markedText others).toList ↔ _
  rw [markedText, markedText, String.toList_ofList, String.toList_ofList]
  induction codes generalizing others with
  | nil =>
    cases others with
    | nil => exact iff_of_false (List.not_lt_nil _) (List.not_lt_nil _)
    | cons other others =>
      refine iff_of_true ?_ (List.nil_lt_cons _ _)
      cases other with
      | char d =>
        obtain ⟨more, hother⟩ := marked_char_append d (others.flatMap marked)
        rw [List.flatMap_cons, hother]
        exact List.nil_lt_cons _ _
      | surrogate rank => exact List.nil_lt_cons _ _
  | cons code codes ih =>
    cases others with
    | nil => exact iff_of_false (List.not_lt_nil _) (List.not_lt_nil _)
    | cons other others =>
      rw [List.flatMap_cons, List.flatMap_cons, List.map_cons, List.map_cons,
        List.cons_lt_cons_iff]
      rcases Nat.lt_trichotomy code.toNat other.toNat with hlt | heq | hgt
      · exact iff_of_true (marked_append_lt hlt _ _) (Or.inl hlt)
      · obtain rfl := toNat_injective heq
        rw [append_lt_append_left_iff, ih]
        simp
      · have hafter := marked_append_lt hgt (others.flatMap marked) (codes.flatMap marked)
        refine iff_of_false (List.lt_asymm hafter) ?_
        omega

end OperandCleanup.CodePoint
