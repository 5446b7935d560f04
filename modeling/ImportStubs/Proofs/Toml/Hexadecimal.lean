import ImportStubs.Proofs.Except
import ImportStubs.Proofs.Number.LongNumeral
import ImportStubs.Proofs.Text.Decoding
import ImportStubs.Settings

/-!
# Settings in hexadecimal

An integer in hexadecimal has no limit on its digits. So settings can hold an integer that has too
many decimal digits to be shown.
-/

namespace ImportStubs.Toml

/-- Digits are taken up to the end. -/
theorem digitRun_of_forall {isDigit : Char → Bool} (hmark : isDigit '_' = false) {cs : List Char}
    (h : ∀ c ∈ cs, isDigit c = true) : digitRun isDigit cs = (cs, []) := by
  fun_induction digitRun isDigit cs with
  | case1 => rfl
  | case2 c hc => rfl
  | case3 c hc => exact absurd (h c (List.mem_singleton_self c)) hc
  | case4 c next rest hc hnext digits after hrun ih =>
    have hdigit := h next (by simp)
    rw [hnext.1, hmark] at hdigit
    cases hdigit
  | case5 c next rest hc hnext digits after hrun ih =>
    obtain ⟨rfl, rfl⟩ := Prod.mk.inj (hrun.symm.trans (ih (List.forall_mem_cons.mp h).2))
    rfl
  | case6 c next rest hc => exact absurd (h c (by simp)) hc

/-- A digit in hexadecimal. -/
def IsHexDigit (c : Char) : Prop := (Numeral.digitValue? 16 c).isSome = true

/-- The number of digits in hexadecimal. -/
def hexValue (cs : List Char) : ℕ :=
  Numeral.ofDigits 16 (cs.map fun c => (Numeral.digitValue? 16 c).getD 0)

/-- No time and no date starts with the mark for radix sixteen. -/
theorem fixed?_mark {width : ℕ} (hwidth : 2 ≤ width) (low high : ℕ) (cs : List Char) :
    fixed? width low high ('0' :: 'x' :: cs) = none := by
  obtain ⟨n, rfl⟩ := Nat.exists_eq_add_of_le' hwidth
  have hmark : isDecimal 'x' = false := by decide
  simp [fixed?, hmark]

theorem moment?_mark (cs : List Char) : moment? ('0' :: 'x' :: cs) = none := by
  rw [moment?, date?, fixed?_mark (by decide)]
  rfl

theorem clock?_mark (cs : List Char) : clock? ('0' :: 'x' :: cs) = none := by
  rw [clock?, fixed?_mark (by decide)]
  rfl

section Hexadecimal

variable {cs : List Char} (hne : cs ≠ []) (h : ∀ c ∈ cs, IsHexDigit c)
include hne h

theorem radixInteger?_hex :
    radixInteger? ('0' :: 'x' :: cs) = some (((hexValue cs : ℕ) : Int), []) := by
  have hrun : digitRun (fun c => (Numeral.digitValue? 16 c).isSome) cs = (cs, []) :=
    digitRun_of_forall (by decide) h
  obtain ⟨c, rest, rfl⟩ := List.exists_cons_of_ne_nil hne
  rw [radixInteger?]
  simp only [if_true, hrun]
  rfl

/-- A numeral in hexadecimal is read, however long it is. -/
theorem readValue_hex :
    readValue ('0' :: 'x' :: cs) = .ok (.int ((hexValue cs : ℕ) : Int), []) := by
  have hscalar : readScalar ('0' :: 'x' :: cs) = .ok (.int ((hexValue cs : ℕ) : Int), []) := by
    rw [readScalar, moment?_mark, clock?_mark, radixInteger?_hex hne h] <;> simp
  rw [readValue, hscalar] <;> simp

end Hexadecimal

theorem normalizeLines_of_notMem {cs : List Char} (h : '\r' ∉ cs) : normalizeLines cs = cs := by
  fun_induction normalizeLines cs with
  | case1 rest ih => simp at h
  | case2 c rest _ ih => rw [ih fun hmem => h (List.mem_cons_of_mem c hmem)]
  | case3 => rfl

section Keys

variable {cs next rest : List Char} {part : Text} {parts : Key}

/-- A part of a key that needs no quotation marks. -/
def IsBarePart (name : List Char) : Prop := name ≠ [] ∧ ∀ c ∈ name, isBare c = true

theorem keyPart?_bare {name : List Char} (h : IsBarePart name) {c : Char} (hc : isBare c = false)
    (rest : List Char) : keyPart? (name ++ c :: rest) = some (Text.ofChars name, c :: rest) := by
  obtain ⟨hne, hbare⟩ := h
  have htake : (name ++ c :: rest).takeWhile isBare = name := by
    rw [List.takeWhile_append_of_pos hbare, List.takeWhile_cons_of_neg (by simp [hc]),
      List.append_nil]
  have hdrop : (name ++ c :: rest).dropWhile isBare = c :: rest := by
    rw [List.dropWhile_append_of_pos hbare, List.dropWhile_cons_of_neg (by simp [hc])]
  obtain ⟨d, ds, rfl⟩ := List.exists_cons_of_ne_nil hne
  have hd := hbare d (List.mem_cons_self ..)
  rw [List.cons_append] at htake hdrop ⊢
  rw [keyPart?, htake, hdrop]
  · rfl
  all_goals
    intro after heq
    obtain ⟨rfl, -⟩ := List.cons.inj heq
    revert hd
    decide

theorem key?_last {name : List Char} (h : IsBarePart name) (rest : List Char) :
    key? (name ++ '=' :: rest) = some ([Text.ofChars name], '=' :: rest) := by
  have hskip : skipBlanks ('=' :: rest) = '=' :: rest := rfl
  rw [key?, keyPart?_bare h (by decide)]
  dsimp only
  rw [hskip]
  simp

theorem key?_dotted {name : List Char} (h : IsBarePart name) (hnext : skipBlanks next = next)
    (hparts : key? next = some (parts, rest)) :
    key? (name ++ '.' :: next) = some (Text.ofChars name :: parts, rest) := by
  have hskip : skipBlanks ('.' :: next) = '.' :: next := rfl
  have hlt : next.length < (name ++ '.' :: next).length := by
    rw [List.length_append, List.length_cons]
    omega
  rw [key?, keyPart?_bare h (by decide)]
  dsimp only
  rw [hskip]
  simp only [hnext, dif_pos hlt, hparts, Option.map_some]

theorem IsBarePart.exists_cons {name : List Char} (h : IsBarePart name) (rest : List Char) :
    ∃ c after, name ++ rest = c :: after ∧ ∀ d, isBare d = false → c ≠ d := by
  obtain ⟨c, cs, rfl⟩ := List.exists_cons_of_ne_nil h.1
  refine ⟨c, cs ++ rest, rfl, ?_⟩
  rintro d hd rfl
  cases hd.symm.trans (h.2 c (List.mem_cons_self ..))

theorem IsBarePart.skipBlanks_eq {name : List Char} (h : IsBarePart name) (rest : List Char) :
    skipBlanks (name ++ rest) = name ++ rest := by
  obtain ⟨c, after, heq, hne⟩ := h.exists_cons rest
  have hblank : isBlank c = false := by
    rw [isBlank, Bool.or_eq_false_iff, beq_eq_false_iff_ne, beq_eq_false_iff_ne]
    exact ⟨hne ' ' (by decide), hne '\t' (by decide)⟩
  rw [heq, skipBlanks, List.dropWhile_cons_of_neg (by simp [hblank])]

theorem IsBarePart.notMem {name : List Char} (h : IsBarePart name) {d : Char}
    (hd : isBare d = false) : d ∉ name := fun hmem => by cases hd.symm.trans (h.2 d hmem)

end Keys

/-- The document after one assignment below a table. -/
def assigned (table name : Text) (v : Value) : Document where
  members := [(table, .table [(name, v)])]
  pending := [[table]]
  closed := if isPiece v then [[table, name]] else []

theorem assign_eq (table name : Text) (v : Value) :
    Document.assign [table, name] v {} = some (assigned table name v) := by
  cases hpiece : isPiece v <;>
    simp [Document.assign, Document.passed, Document.isClosed, updateAt, insertNew, assigned,
      hpiece]

section Statement

variable {c : Char} {after value : List Char} {table name : Text} {v : Value}

theorem readStatement_eq (hbracket : c ≠ '[')
    (hkey : key? (c :: after) = some ([table, name], '=' :: value))
    (hblank : skipBlanks value = value) (hvalue : readValue value = .ok (v, [])) :
    readStatement {} (c :: after) = .ok (assigned table name v, []) := by
  rw [readStatement]
  · rw [hkey]
    change (readValue (skipBlanks value) >>= _) = _
    rw [hblank, hvalue]
    refine bind_eq_ok_iff.mpr ⟨(v, []), rfl, ?_⟩
    dsimp only
    rw [assign_eq]
    rfl
  · rintro rest heq
    exact hbracket (List.cons.inj heq).1
  · rintro rest heq
    exact hbracket (List.cons.inj heq).1

end Statement

/-- A document with one assignment below a table, whose value is the rest of it. -/
theorem read_setting {table name : List Char} (htable : IsBarePart table) (hname : IsBarePart name)
    {value : List Char} {v : Value} (hreturn : '\r' ∉ value)
    (hblank : skipBlanks value = value) (hvalue : readValue value = .ok (v, [])) :
    read (table ++ '.' :: (name ++ '=' :: value)) =
      .ok [(Text.ofChars table, .table [(Text.ofChars name, v)])] := by
  have hkey : key? (table ++ '.' :: (name ++ '=' :: value)) =
      some ([Text.ofChars table, Text.ofChars name], '=' :: value) :=
    key?_dotted htable (hname.skipBlanks_eq _) (key?_last hname value)
  have hnormal : normalizeLines (table ++ '.' :: (name ++ '=' :: value)) =
      table ++ '.' :: (name ++ '=' :: value) := by
    refine normalizeLines_of_notMem ?_
    simp [htable.notMem, hname.notMem, hreturn, isBare]
  have hskip := htable.skipBlanks_eq ('.' :: (name ++ '=' :: value))
  obtain ⟨c, after, hcons, hne⟩ := htable.exists_cons ('.' :: (name ++ '=' :: value))
  rw [hcons] at hkey hnormal hskip
  have hstatement := readStatement_eq (hne '[' (by decide)) hkey hblank hvalue
  have hline : c ≠ '\n' ∧ c ≠ '#' := ⟨hne '\n' (by decide), hne '#' (by decide)⟩
  have hlines : readLines {} (c :: after) =
      .ok (assigned (Text.ofChars table) (Text.ofChars name) v) := by
    rw [readLines, hskip]
    have hend : lineEnd? [] = some [] := rfl
    have hrest : readLines (assigned (Text.ofChars table) (Text.ofChars name) v) [] =
        .ok (assigned (Text.ofChars table) (Text.ofChars name) v) := by
      rw [readLines]
      rfl
    simp [hline.1, hline.2, hstatement, hend, hrest]
  rw [hcons, read, hnormal, hlines]
  rfl

end ImportStubs.Toml

namespace ImportStubs.Settings

open Toml (IsHexDigit hexValue)

/-- A file that sets the limit in hexadecimal. -/
def limitFile (digits : List Char) : List UInt8 :=
  Utf8.encode ("link".toList ++ '.' :: ("max_file_size".toList ++ '=' :: '0' :: 'x' :: digits))

theorem ofDocument_limit (n : ℕ) :
    ofDocument [("link", .table [("max_file_size", .int n)])] =
      .ok { link := { maxFileSize := n } } := by
  have hglobal : Value.member? "global" [(("link" : Text), Value.table
      [(("max_file_size" : Text), .int n)])] = none := by
    have hother : (("global" : Text) == "link") = false := by decide +kernel
    rw [Value.member?, List.lookup_cons, hother]
    rfl
  have hlink : readLink (some (.table [("max_file_size", .int n)])) =
      .ok { maxFileSize := n } := by
    have hchunk : Text.is "max_file_size" "chunk_size" = false := by decide +kernel
    have hdb : Text.is "max_file_size" "import_db" = false := by decide +kernel
    have hlimit : Text.is "max_file_size" "max_file_size" = true := by decide +kernel
    simp [readLink, readTable, linkMembers, Member.name, hchunk, hdb, hlimit, Member.apply]
  have hvalid : validate { maxFileSize := n } = .ok { maxFileSize := n } := by
    simp [validate]
  have hfound : Value.member? "link" [(("link" : Text), Value.table
      [(("max_file_size" : Text), .int n)])] =
        some (.table [("max_file_size", .int n)]) := by
    rw [Value.member?, List.lookup_cons, BEq.rfl]
  rw [ofDocument, hglobal, hfound]
  refine bind_eq_ok_iff.mpr ⟨{}, rfl, ?_⟩
  refine bind_eq_ok_iff.mpr ⟨_, hlink, ?_⟩
  exact bind_eq_ok_iff.mpr ⟨_, hvalid, rfl⟩

/-- The limit of the file is read, however long it is. -/
theorem ofBytes_limitFile {digits : List Char} (hne : digits ≠ [])
    (h : ∀ c ∈ digits, IsHexDigit c) :
    ofBytes (limitFile digits) = .ok { link := { maxFileSize := (hexValue digits : ℕ) } } := by
  have hreturn : '\r' ∉ '0' :: 'x' :: digits := by
    have hdigit : ¬(Numeral.digitValue? 16 '\r').isSome = true := by decide
    simp only [List.mem_cons, not_or]
    exact ⟨by decide, by decide, fun hmem => hdigit (h _ hmem)⟩
  have hlink : Toml.IsBarePart "link".toList := ⟨by simp, by simp [Toml.isBare]⟩
  have hname : Toml.IsBarePart "max_file_size".toList := ⟨by simp, by simp [Toml.isBare]⟩
  have hread := Toml.read_setting hlink hname hreturn rfl (Toml.readValue_hex hne h)
  rw [ofBytes, limitFile, Utf8.decode?_eq_some_iff.mpr rfl]
  dsimp only
  rw [hread]
  exact ofDocument_limit _

/-- A limit that is a power of sixteen. -/
theorem ofBytes_limitPower (n : ℕ) :
    ofBytes (limitFile ('1' :: List.replicate n '0')) =
      .ok { link := { maxFileSize := (16 ^ n : ℕ) } } := by
  have hdigits : ∀ c ∈ '1' :: List.replicate n '0', IsHexDigit c := by
    refine List.forall_mem_cons.mpr ⟨rfl, fun c hc => ?_⟩
    rw [List.eq_of_mem_replicate hc]
    rfl
  have hvalue : hexValue ('1' :: List.replicate n '0') = 16 ^ n := by
    rw [hexValue, List.map_cons, List.map_replicate]
    exact (Numeral.ofDigits_zeros 1 n).trans (Nat.one_mul _)
  rw [ofBytes_limitFile (List.cons_ne_nil _ _) hdigits, hvalue]

end ImportStubs.Settings
