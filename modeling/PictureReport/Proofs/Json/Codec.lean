import PictureReport.Json.Codec
import PictureReport.Proofs.Numerals.Nearest
import PictureReport.Proofs.Text
import PictureReport.Record

/-!
# Lawful codecs

What is relied on of the codec by which records are kept in files.  `Records.Keeps` describes the records, and
`Codec.Lawful` what the codec does with them: it reads what it writes, it writes characters beyond ASCII as they
are and control characters by escapes, and it reads nothing but whole documents.  `scan` goes through a text
character by character; in a document it ends in `Phase.outside`, where no string is open.
-/

namespace PictureReport

namespace Json

/-! ## The phases of a text -/

/-- Where a reader of JSON is behind the first characters of a text: outside of strings, within one, behind a
backslash in one, or at a character that no JSON text has there. -/
inductive Phase where
  | outside
  | string
  | escape
  | broken
deriving DecidableEq, Repr

/-- One character.  Only strings have characters beyond ASCII, but not behind a backslash. -/
def Phase.step : Phase → Char → Phase
  | outside, '"' => string
  | outside, c => if c.toNat < 128 then outside else broken
  | string, '"' => outside
  | string, '\\' => escape
  | string, _ => string
  | escape, c => if c.toNat < 128 then string else broken
  | broken, _ => broken

/-- The phase behind a text: one `Phase.step` for each of its characters. -/
def scan (phase : Phase) (t : Text) : Phase := t.foldl Phase.step phase

theorem scan_append (phase : Phase) (t u : Text) : scan phase (t ++ u) = scan (scan phase t) u :=
  List.foldl_append

theorem scan_cons (phase : Phase) (c : Char) (t : Text) : scan phase (c :: t) = scan (phase.step c) t := rfl

theorem scan_broken (t : Text) : scan .broken t = .broken := by
  induction t with
  | nil => rfl
  | cons c t ih => exact ih

theorem step_outside {c : Char} (hc : c ≠ '"') (hascii : c.toNat < 128) : Phase.step .outside c = .outside := by
  rw [Phase.step]
  · exact if_pos hascii
  · exact hc

/-- A text that ends outside of strings has a character beyond ASCII only where a string is open. -/
theorem string_of_scan {phase : Phase} {c : Char} {t : Text} (hc : 128 ≤ c.toNat)
    (h : scan phase (c :: t) = .outside) : phase = .string := by
  have hquote : c ≠ '"' := by
    rintro rfl
    exact absurd hc (by decide)
  have hbroken : phase.step c ≠ .broken := by
    intro hstep
    rw [scan_cons, hstep, scan_broken] at h
    cases h
  cases phase with
  | string => rfl
  | outside => exact absurd (by rw [Phase.step]; exacts [if_neg (by omega), hquote]) hbroken
  | escape => exact absurd (if_neg (by omega)) hbroken
  | broken => exact absurd rfl hbroken

/-- No string is opened without a quote. -/
theorem scan_of_not_mem {t : Text} (h : '"' ∉ t) : scan .outside t = .outside ∨ scan .outside t = .broken := by
  induction t with
  | nil => exact .inl rfl
  | cons c t ih =>
    rw [List.mem_cons, not_or] at h
    have hstep : Phase.step .outside c = if c.toNat < 128 then .outside else .broken := by
      rw [Phase.step]
      exact Ne.symm h.1
    rw [scan_cons, hstep]
    split
    · exact ih h.2
    · exact .inr (scan_broken t)

/-! ## Scalars -/

/-- The values of a record that is kept in a file: nothing, integers of 64 bits, finite numbers and texts. -/
inductive Storable : Value → Prop
  | null : Storable .null
  | int {i : Int} (hi : -signedBound ≤ i ∧ i < unsignedBound) : Storable (.int i)
  | float {negative : Bool} {mantissa : Nat} {exponent : Int}
      (h : Binary64.IsCanonical mantissa exponent) : Storable (.float (.finite negative mantissa exponent))
  | text (t : Text) : Storable (.text t)

/-- The texts that a scalar holds. -/
def stringsOf : Value → List Text
  | .text t => [t]
  | _ => []

/-- The separators of lines that are no control characters of ASCII: U+0085, U+2028 and U+2029. -/
def isSeparator (c : Char) : Bool := c.toNat == 0x85 || c.toNat == 0x2028 || c.toNat == 0x2029

theorem isBreak_of_isSeparator {c : Char} (h : isSeparator c = true) : Text.isBreak c = true := by
  simp only [isSeparator, Bool.or_eq_true, beq_iff_eq] at h
  simp only [Text.isBreak, Bool.or_eq_true, beq_iff_eq]
  omega

theorem isSeparator_of_isBreak {c : Char} (hc : 32 ≤ c.toNat) (h : Text.isBreak c = true) :
    isSeparator c = true := by
  simp only [Text.isBreak, Bool.or_eq_true, Bool.and_eq_true, decide_eq_true_eq, beq_iff_eq] at h
  simp only [isSeparator, Bool.or_eq_true, beq_iff_eq]
  omega

theorem le_of_isSeparator {c : Char} (h : isSeparator c = true) : 128 ≤ c.toNat := by
  simp only [isSeparator, Bool.or_eq_true, beq_iff_eq] at h
  omega

end Json

/-! ## Records -/

namespace Records

open Json

/-- The records that are kept in files: their keys are different, and their values are `Storable`. -/
structure Keeps (record : Record) : Prop where
  keys : (record.map Prod.fst).Nodup
  values : ∀ entry ∈ record, Storable entry.2

/-- The texts that a record holds, its keys among them. -/
def textsOf (record : Record) : List Text :=
  record.flatMap fun entry => entry.1.toList :: stringsOf entry.2

end Records

namespace Json

open Records (Keeps textsOf)

/-- What is relied on of the codec of files. -/
structure Codec.Lawful (json : Codec) : Prop where
  /-- A record is written, and what is written is read as the record. -/
  loads_dumps {record : Record} (h : Keeps record) :
    ∃ t, json.dumps (.object record) = .ok t ∧ json.loads t = some (.object record)
  /-- Characters beyond ASCII are written as they are. -/
  mem_dumps {record : Record} {t : Text} {c : Char} (h : Keeps record)
    (ht : json.dumps (.object record) = .ok t) (hc : 128 ≤ c.toNat) : c ∈ t ↔ ∃ u ∈ textsOf record, c ∈ u
  /-- Control characters are not written as they are. -/
  le_of_mem_dumps {record : Record} {t : Text} {c : Char} (h : Keeps record)
    (ht : json.dumps (.object record) = .ok t) (hc : c ∈ t) : 32 ≤ c.toNat
  /-- A list of records is written on lines that are indented, and what is written is read as the list. -/
  loads_dumpsIndented {records : List Record} (h : ∀ record ∈ records, Keeps record) :
    ∃ t, json.dumpsIndented (.list (records.map .object)) = .ok t ∧
      json.loads t = some (.list (records.map .object))
  /-- Line feeds end the lines, and other control characters are not written. -/
  le_of_mem_dumpsIndented {records : List Record} {t : Text} {c : Char} (h : ∀ record ∈ records, Keeps record)
    (ht : json.dumpsIndented (.list (records.map .object)) = .ok t) (hc : c ∈ t) : 32 ≤ c.toNat ∨ c = '\n'
  /-- A text in which a string is left open is refused, and so is one with characters beyond ASCII outside of
  its strings. -/
  scan_of_loads {t : Text} {v : Value} (h : json.loads t = some v) : scan .outside t = .outside
  /-- A blank text is refused. -/
  loads_of_allBlank {t : Text} (h : t.AllBlank) : json.loads t = none

end Json

end PictureReport
