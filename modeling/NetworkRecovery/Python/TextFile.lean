import NetworkRecovery.Python.Text

/-!
# Text files

A file is bytes. Text goes in through `encode` after the newline translation
of the platform, and comes out through `decode`, which may refuse, followed by
universal newlines.

`readText_appendText` is the law the callers use: after a row is appended, the
file reads as it did before followed by the row and one line feed, on either
platform and whatever the file ended with.
-/

namespace Python

/-- `s.encode("utf-8")`. -/
def encode (s : List Char) : ByteArray := (String.ofList s).toByteArray

/-- `b.decode("utf-8")`, `none` where it raises `UnicodeDecodeError`. -/
def decode (b : ByteArray) : Option (List Char) := b.utf8Decode?.map Array.toList

theorem encode_eq (s : List Char) : encode s = s.utf8Encode := by
  simp [encode]

theorem encode_append (s t : List Char) : encode (s ++ t) = encode s ++ encode t := by
  simp only [encode_eq, List.utf8Encode_append]

theorem decode_encode_append (s : List Char) (b : ByteArray) :
    decode (encode s ++ b) = (decode b).map (s ++ ·) := by
  induction s with
  | nil =>
    have hnil : encode [] ++ b = b := by
      rw [encode_eq, List.utf8Encode_nil, ByteArray.empty_append]
    rw [hnil]
    simp
  | cons c cs ih =>
    have hcons : encode (c :: cs) ++ b = [c].utf8Encode ++ (encode cs ++ b) := by
      rw [← encode_eq [c], ← ByteArray.append_assoc, ← encode_append, List.singleton_append]
    unfold decode at ih ⊢
    rw [hcons, ByteArray.utf8Decode?_utf8Encode_singleton_append, Option.map_map]
    cases h : (encode cs ++ b).utf8Decode? with
    | none =>
      rw [h] at ih
      cases hb : b.utf8Decode? with
      | none => rfl
      | some a => simp [hb] at ih
    | some a =>
      rw [h] at ih
      cases hb : b.utf8Decode? with
      | none => simp [hb] at ih
      | some a' =>
        simp only [hb, Option.map_some, Option.some.injEq] at ih
        simp [ih]

@[simp] theorem decode_encode (s : List Char) : decode (encode s) = some s := by
  simp [decode, encode_eq, List.utf8Decode?_utf8Encode]

/-- What was decoded is what was encoded. -/
theorem encode_of_decode {b : ByteArray} {u : List Char} (h : decode b = some u) : b = encode u := by
  unfold decode at h
  obtain ⟨a, ha, rfl⟩ := Option.map_eq_some_iff.mp h
  have hsome : b.utf8Decode?.isSome := by rw [ha]; rfl
  have henc := ByteArray.utf8Encode_get_utf8Decode? (b := b) (h := hsome)
  have hget : b.utf8Decode?.get hsome = a := by simp [ha]
  rw [hget] at henc
  rw [encode_eq]
  exact henc.symm

/-- What stands before a text decodes if the whole does: a character begins with a byte that
no other character goes on with. -/
theorem decode_before {b : ByteArray} {c : Char} {cs u : List Char}
    (h : decode (b ++ encode (c :: cs)) = some u) :
    ∃ t, decode b = some t ∧ u = t ++ c :: cs := by
  have hbytes : b ++ encode (c :: cs) = (String.ofList u).toByteArray := encode_of_decode h
  have hpos : 0 < (encode (c :: cs)).size := by
    rw [encode_eq, List.utf8Encode_cons, ByteArray.size_append, List.utf8Encode_singleton]
    have hchar := c.utf8Size_pos
    simp only [List.size_toByteArray, String.length_utf8EncodeChar]
    omega
  have hfirst : (encode (c :: cs))[0].IsUTF8FirstByte :=
    (String.ofList (c :: cs)).isValidUTF8.isUTF8FirstByte_getElem_zero hpos
  have hvalid : String.Pos.Raw.IsValid (String.ofList u) ⟨b.size⟩ := by
    apply String.Pos.Raw.isValid_iff_isUTF8FirstByte.mpr
    right
    have hlt : (⟨b.size⟩ : String.Pos.Raw) < (String.ofList u).rawEndPos := by
      rw [String.Pos.Raw.lt_iff, String.byteIdx_rawEndPos, ← String.size_toByteArray, ← hbytes,
        ByteArray.size_append]
      exact Nat.lt_add_of_pos_right hpos
    refine ⟨hlt, ?_⟩
    unfold String.getUTF8Byte
    simp only [← hbytes]
    rw [ByteArray.getElem_append_right (Nat.le_refl _)]
    simpa using hfirst
  obtain ⟨s₁, s₂, hs, hsize⟩ := String.Pos.Raw.isValid_iff_exists_append.mp hvalid
  have hsplit : b ++ encode (c :: cs) = s₁.toByteArray ++ s₂.toByteArray := by
    rw [hbytes, hs, String.toByteArray_append]
  have hb : b = encode s₁.toList := by
    have hsizes : b.size = s₁.toByteArray.size := by
      simpa [String.Pos.Raw.ext_iff] using hsize
    have hleft := ByteArray.append_inj_left hsplit hsizes
    rw [hleft]
    simp [encode]
  subst hb
  rw [decode_encode_append, decode_encode, Option.map_some] at h
  exact ⟨s₁.toList, decode_encode _, (Option.some.inj h).symm⟩

/-- The first bytes of a text are, where they decode, its first characters. -/
theorem decode_extract {s t : List Char} {cut : Nat} (hcut : cut < (encode s).size)
    (h : decode ((encode s).extract 0 cut) = some t) : ∃ rest, s = t ++ rest ∧ rest ≠ [] := by
  have hprefix := encode_of_decode h
  have hsplit : encode s = encode t ++ (encode s).extract cut (encode s).size := by
    rw [← hprefix, ByteArray.extract_append_extract]
    simp
  have hdecode : decode (encode s) = some s := decode_encode s
  rw [hsplit, decode_encode_append] at hdecode
  obtain ⟨rest, -, hs⟩ := Option.map_eq_some_iff.mp hdecode
  refine ⟨rest, hs.symm, ?_⟩
  rintro rfl
  rw [List.append_nil] at hs
  have hsize : (encode t).size = cut := by
    rw [← hprefix, ByteArray.size_extract]
    omega
  rw [hs] at hsize
  omega

/-! ## Newlines -/

/-- `os.linesep`. -/
inductive Linesep where
  | lf
  | crlf
  deriving DecidableEq

def Linesep.text : Linesep → List Char
  | .lf => ['\n']
  | .crlf => ['\r', '\n']

/-- What a text-mode write makes of a text. -/
def Linesep.translate (sep : Linesep) (s : List Char) : List Char :=
  s.flatMap fun c => if c = '\n' then sep.text else [c]

/-- `path.read_text(encoding="utf-8")`. -/
def readText (b : ByteArray) : Option (List Char) := (decode b).map universalNewlines

/-- What `fh.write(s)` leaves in a file opened for appending. -/
def appendText (sep : Linesep) (b : ByteArray) (s : List Char) : ByteArray :=
  b ++ encode (sep.translate s)

/-- What `path.write_text(s)` leaves in a file. -/
def writeText (sep : Linesep) (s : List Char) : ByteArray := encode (sep.translate s)

/-- The translation of two texts one after the other is one after the other,
unless the seam falls inside `\r\n`. -/
theorem universalNewlines_append_of_head (s : List Char) {t : List Char}
    (ht : t.head? ≠ some '\n') :
    universalNewlines (s ++ t) = universalNewlines s ++ universalNewlines t := by
  fun_induction universalNewlines s with
  | case1 => rfl
  | case2 cs ih => simp [universalNewlines, ih]
  | case3 cs hcs ih =>
    have hhead : ∀ ds, cs ++ t = '\n' :: ds → False := by
      intro ds h
      cases cs with
      | nil => exact ht (by simpa using congrArg List.head? h)
      | cons d ds' => exact hcs ds' (by rw [(List.cons.inj h).1])
    rw [List.cons_append, universalNewlines.eq_3 _ (fun _ h => hhead _ h), ih, List.cons_append]
  | case4 c cs h1 h2 ih =>
    rw [List.cons_append, universalNewlines.eq_4 c _ (fun _ hc _ => h2 hc) h2, ih, List.cons_append]

/-- Text without line feeds is written as it is. -/
theorem Linesep.translate_row (sep : Linesep) {row : List Char} (h : '\n' ∉ row)
    (rest : List Char) : sep.translate (row ++ rest) = row ++ sep.translate rest := by
  induction row with
  | nil => rfl
  | cons c cs ih =>
    simp only [List.mem_cons, not_or] at h
    unfold translate at ih ⊢
    rw [List.cons_append, List.flatMap_cons, if_neg (Ne.symm h.1), ih h.2]
    rfl

theorem universalNewlines_linesep (sep : Linesep) : universalNewlines sep.text = ['\n'] := by
  cases sep <;> rfl

/-- After a row is appended the file reads as before, then the row, then one
line feed. -/
theorem readText_appendText (sep : Linesep) {b : ByteArray} {s row : List Char}
    (hb : readText b = some s) (hrow : row ≠ []) (hlf : '\n' ∉ row) (hcr : '\r' ∉ row) :
    readText (appendText sep b (row ++ ['\n'])) = some (s ++ row ++ ['\n']) := by
  obtain ⟨u, hu, rfl⟩ := Option.map_eq_some_iff.mp hb
  have hutf : b = encode u := encode_of_decode hu
  have htr : sep.translate (row ++ ['\n']) = row ++ sep.text := by
    rw [sep.translate_row hlf]
    simp [Linesep.translate]
  have hhead : (row ++ sep.text).head? ≠ some '\n' := by
    cases row with
    | nil => exact absurd rfl hrow
    | cons c cs =>
      intro h
      exact hlf (by simp only [List.cons_append, List.head?_cons, Option.some.injEq] at h; simp [h])
  unfold readText appendText
  rw [htr, hutf, ← encode_append, decode_encode, Option.map_some,
    universalNewlines_append_of_head u hhead, universalNewlines_append hcr,
    universalNewlines_linesep, List.append_assoc]

/-- What was translated reads as it was, whatever stands behind it. -/
theorem universalNewlines_translate (sep : Linesep) {s : List Char} (hcr : '\r' ∉ s)
    (t : List Char) : universalNewlines (sep.translate s ++ t) = s ++ universalNewlines t := by
  induction s with
  | nil => rfl
  | cons c cs ih =>
    simp only [List.mem_cons, not_or] at hcr
    have ih := ih hcr.2
    by_cases hc : c = '\n'
    · subst hc
      have hsplit : sep.translate ('\n' :: cs) = sep.text ++ sep.translate cs := rfl
      rw [hsplit]
      cases sep with
      | lf => simpa [Linesep.text, universalNewlines] using ih
      | crlf => simpa [Linesep.text, universalNewlines] using ih
    · have hsplit : sep.translate (c :: cs) = [c] ++ sep.translate cs := by
        simp [Linesep.translate, hc]
      rw [hsplit, List.append_assoc, universalNewlines_append (by simpa using hcr.1), ih]
      rfl

/-- What is written is read, as long as it holds no carriage return. -/
theorem readText_writeText (sep : Linesep) {s : List Char} (hcr : '\r' ∉ s) :
    readText (writeText sep s) = some s := by
  have htranslate := universalNewlines_translate sep hcr []
  unfold readText writeText
  rw [decode_encode, Option.map_some]
  simpa [universalNewlines] using htranslate

end Python
