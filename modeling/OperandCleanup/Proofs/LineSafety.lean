import OperandCleanup.Proofs.Files
import OperandCleanup.Proofs.Json.Lexemes
import OperandCleanup.Proofs.Lines

/-!
# The text of a document is line-safe

The text of a document is in printable ASCII and line feeds, and no line feed is within a token. So
its lines are what stands between its line feeds, whatever else may end a line in other texts. The
bytes of its file are those of the characters, and any decoder that reads ASCII as such gives the
text again.
-/

namespace OperandCleanup

namespace Text

/-! ## Decoders -/

/-- Whether a decoder reads bytes of ASCII as the characters with those codes. -/
def AsciiCompatible (decode : List UInt8 → Option (List Char)) : Prop :=
  ∀ bytes : List UInt8, (∀ b ∈ bytes, b < 0x80) →
    decode bytes = some (bytes.map fun b => Char.ofNat b.toNat)

/-- The bytes of ASCII text, one for each character. -/
def asciiBytes (cs : List Char) : List UInt8 := cs.map fun c => UInt8.ofNat c.toNat

/-- The characters of bytes, each with the code that the byte is. -/
def latinChars (bytes : List UInt8) : List Char := bytes.map fun b => Char.ofNat b.toNat

theorem asciiCompatible_latin : AsciiCompatible fun bytes => some (latinChars bytes) :=
  fun _ _ => rfl

theorem toNat_asciiByte {c : Char} (h : c.toNat < 0x80) : (UInt8.ofNat c.toNat).toNat = c.toNat :=
  UInt8.toNat_ofNat_of_lt' (Nat.lt_trans h (by decide))

/-- The encoder writes ASCII text byte by byte. -/
theorem Utf8.encode_eq_asciiBytes {cs : List Char} (h : ∀ c ∈ cs, c.toNat < 0x80) :
    Utf8.encode cs = asciiBytes cs := by
  rw [Utf8.encode, asciiBytes, List.map_eq_flatMap]
  exact List.flatMap_congr fun c hc => if_pos (Nat.le_of_lt_succ (h c hc))

/-- A decoder that reads ASCII as such reads the bytes of ASCII text. -/
theorem AsciiCompatible.decode_asciiBytes {decode : List UInt8 → Option (List Char)}
    (hdecode : AsciiCompatible decode) {cs : List Char} (h : ∀ c ∈ cs, c.toNat < 0x80) :
    decode (asciiBytes cs) = some cs := by
  have hbytes : ∀ b ∈ asciiBytes cs, b < 0x80 := by
    intro b hb
    obtain ⟨c, hc, rfl⟩ := List.mem_map.mp hb
    rw [UInt8.lt_iff_toNat_lt, toNat_asciiByte (h c hc)]
    exact h c hc
  have hchars : (asciiBytes cs).map (fun b => Char.ofNat b.toNat) = cs := by
    rw [asciiBytes, List.map_map]
    refine (List.map_congr_left fun c hc => ?_).trans (List.map_id cs)
    rw [Function.comp_apply, toNat_asciiByte (h c hc), Char.ofNat_toNat, id]
  rw [hdecode _ hbytes, hchars]

/-- The decoder that documents are read with is one of those. -/
theorem asciiCompatible_utf8 : AsciiCompatible fun bytes => (Utf8.decode bytes).toOption := by
  intro bytes hbytes
  have hcode (b : UInt8) : (Char.ofNat b.toNat).toNat = b.toNat := by
    rw [Char.ofNat, dif_pos (Or.inl (Nat.lt_trans b.toNat_lt (by decide)))]
    rfl
  have hascii : ∀ c ∈ latinChars bytes, c.toNat < 0x80 := by
    intro c hc
    obtain ⟨b, hb, rfl⟩ := List.mem_map.mp hc
    rw [hcode]
    exact UInt8.lt_iff_toNat_lt.mp (hbytes b hb)
  have hencoded : Utf8.encode (latinChars bytes) = bytes := by
    rw [Utf8.encode_eq_asciiBytes hascii, asciiBytes, latinChars, List.map_map]
    refine (List.map_congr_left fun b _ => ?_).trans (List.map_id bytes)
    rw [Function.comp_apply, hcode, UInt8.ofNat_toNat, id]
  have hdecoded := Utf8.decode_encode hascii
  rw [hencoded] at hdecoded
  exact congrArg Except.toOption hdecoded

end Text

/-! ## Documents -/

/-- The text of a document ends with the bracket of its object. -/
theorem Document.getLast?_text (document : Document) :
    document.text.toList.getLast? = some '\x7d' := by
  rw [text, Json.canonicalText, String.toList_ofList, toJson]
  simp only [Json.sorted, Json.sortedMembers, Json.insertSorted, Json.written, Json.writtenAt]
  rw [← List.cons_append, List.getLast?_concat]

/-- The lines of the text of a document are what stands between its line feeds. -/
theorem Document.lines_text (document : Document) :
    Text.lines document.text = (Text.pieces '\n' document.text.toList).map String.ofList := by
  have hends : ∀ c ∈ document.text.toList, Text.endsLine c = true → c = '\n' := by
    intro c hc hend
    rcases isWritten_of_mem_text c hc with hfeed | ⟨hlow, hhigh⟩
    · exact hfeed
    · simp only [Text.endsLine, Bool.or_eq_true, Bool.and_eq_true, decide_eq_true_eq,
        beq_iff_eq] at hend
      omega
  rw [Text.lines, Text.lineLists_eq_pieces hends document.getLast?_text (by decide)]

/-- The text of a document and a line feed are in ASCII. -/
theorem Document.toNat_lt_of_mem_line {document : Document} :
    ∀ c ∈ document.text.toList ++ ['\n'], c.toNat < 0x80 :=
  List.forall_mem_append.mpr
    ⟨fun c hc => (isWritten_of_mem_text c hc).toNat_lt, List.forall_mem_singleton.mpr (by decide)⟩

/-- The file of a document holds the bytes of its text and a line feed, one for each character. -/
theorem FileSystem.readBytes_exportDocument {document : Document} {files files' : FileSystem}
    {path : Path} (h : files.exportDocument path document = .ok files') :
    files'.readBytes path = .ok (Text.asciiBytes (document.text.toList ++ ['\n'])) := by
  obtain ⟨around, -, hwritten⟩ := bind_eq_ok_iff.mp h
  rw [readBytes_writeBytes (mapError_eq_ok_iff.mp hwritten),
    Text.Utf8.encode_eq_asciiBytes Document.toNat_lt_of_mem_line]

/-- The text of a document is in ASCII. Its only control characters are line feeds, and they stand
between tokens, which hold all of it but blanks. It has its lines between them, though other
characters end lines as well. Where it is exported to a file, any decoder that reads ASCII as such
reads it there, with a line feed behind it. -/
theorem Document.text_isLineSafe (document : Document) :
    (∀ c ∈ document.text.toList, c.toNat < 0x80 ∧ (c.toNat < 0x20 → c = '\n')) ∧
      (Json.LineFree (Json.lexemes document.text.toList) ∧
        ((Json.lexemes document.text.toList).flatten.filter fun c => !Json.isSpace c) =
          document.text.toList.filter fun c => !Json.isSpace c) ∧
      Text.lines document.text = (Text.pieces '\n' document.text.toList).map String.ofList ∧
      ∀ (files files' : FileSystem) (path : Path),
        files.exportDocument path document = .ok files' →
          ∃ bytes, files'.readBytes path = .ok bytes ∧
            ∀ decode, Text.AsciiCompatible decode →
              decode bytes = some (document.text.toList ++ ['\n']) := by
  refine ⟨fun c hc => ⟨(isWritten_of_mem_text c hc).toNat_lt, fun hcontrol => ?_⟩,
    ⟨?_, Json.filter_lexemes _⟩, document.lines_text, fun files files' path h =>
      ⟨_, FileSystem.readBytes_exportDocument h, fun decode hdecode =>
        hdecode.decode_asciiBytes toNat_lt_of_mem_line⟩⟩
  · exact (isWritten_of_mem_text c hc).resolve_right fun hplain =>
      Nat.not_le_of_lt hcontrol hplain.1
  · rw [text, Json.canonicalText, String.toList_ofList]
    exact Json.lineFree_lexemes_written document.toJson.sorted

/-- A record with control characters, other ends of lines and characters above the basic plane in
its texts. -/
def unprintableRecord : Record where
  mnemonic := "\x00\t\n\u0085"
  operands := [{ name := "\"\\\u2028", extras := [("\u2029😀", .array [.string "\r\n", .null])] }]
  extras := [("\x0c", .string "\x7f")]

/-- The unprintable record is exported to a file, which holds its text in each of two encodings. -/
theorem Document.text_isLineSafe_unprintable :
    ∃ files bytes, FileSystem.exportDocument {} ⟨["out.json"]⟩ ⟨[unprintableRecord]⟩ = .ok files ∧
      files.readBytes ⟨["out.json"]⟩ = .ok bytes ∧
      Text.latinChars bytes = (⟨[unprintableRecord]⟩ : Document).text.toList ++ ['\n'] ∧
      (Text.Utf8.decode bytes).toOption =
        some ((⟨[unprintableRecord]⟩ : Document).text.toList ++ ['\n']) := by
  obtain ⟨-, -, -, hfile⟩ := Document.text_isLineSafe ⟨[unprintableRecord]⟩
  obtain ⟨bytes, hread, hdecode⟩ := hfile {} _ ⟨["out.json"]⟩ rfl
  exact ⟨_, bytes, rfl, hread, Option.some.inj (hdecode _ Text.asciiCompatible_latin),
    hdecode _ Text.asciiCompatible_utf8⟩

end OperandCleanup
