import PictureReport.Proofs.Picture.Compiled

/-!
# Which marks make a field

Each of the seven rules is for the marks of a small grammar (`Shape.Rule.Draws`), and it takes the longest
marks of its grammar that a text begins with.  Three of the grammars overlap.  The rule that comes first
among them takes the most: the letter of a number with an exponent stands in no other marks, so marks without
it end before it; and marks that have digits on both sides of a point are read alike by the two rules behind.

A picture line is malformed where no rule applies behind an introducer, and the last such introducer is
reported (`Segment.fields_classified`).
-/

namespace PictureReport

namespace Shape

/-- The rules for the marks of a field. -/
inductive Rule where
  | right
  | center
  | scientific
  | whole
  | fraction
  | left
  | page
deriving DecidableEq, Repr

namespace Rule

/-- The rules in the order in which they are tried. -/
def all : List Rule := [right, center, scientific, whole, fraction, left, page]

/-- What a rule makes of the marks at the front of a text, and what follows them. -/
def read? : Rule → Text → Option (Shape × Text)
  | right => marksRule '>' (text .right)
  | center => marksRule '|' (text .center)
  | scientific => scientificRule
  | whole => wholeRule
  | fraction => fractionRule
  | left => marksRule '<' (text .left)
  | page => marksRule '&' Shape.page

/-- The marks that a rule is for. -/
inductive Draws : Rule → Text → Prop where
  | right (n : Nat) : Draws right (List.replicate (n + 1) '>')
  | center (n : Nat) : Draws center (List.replicate (n + 1) '|')
  | scientific (before behind exponent : Nat) (radix : Bool) (letter : ExponentLetter) :
    Draws scientific (List.replicate before '#' ++ radixMark radix ++ List.replicate behind '#' ++
      [letter.char] ++ List.replicate (exponent + 1) '#')
  | whole (before behind : Nat) (radix : Bool) :
    Draws whole (List.replicate (before + 1) '#' ++ radixMark radix ++ List.replicate behind '#')
  | fraction (before behind : Nat) :
    Draws fraction (List.replicate before '#' ++ radixMark true ++ List.replicate (behind + 1) '#')
  | left (n : Nat) : Draws left (List.replicate (n + 1) '<')
  | page (n : Nat) : Draws page (List.replicate (n + 1) '&')

end Rule

theorem rules_eq : rules = Rule.all.map Rule.read? := rfl

theorem findSome?_cons {α β : Type} (f : α → Option β) (a : α) (others : List α) :
    (a :: others).findSome? f = (f a).or (others.findSome? f) := by
  rw [List.findSome?_cons]
  cases f a <;> rfl

/-- `Shape.read?` uses the first rule that applies. -/
theorem read?_eq (t : Text) : read? t =
    (Rule.right.read? t).or ((Rule.center.read? t).or ((Rule.scientific.read? t).or
      ((Rule.whole.read? t).or ((Rule.fraction.read? t).or
        ((Rule.left.read? t).or (Rule.page.read? t)))))) := by
  simp only [read?, rules_eq, Rule.all, List.map_cons, List.map_nil, findSome?_cons,
    List.findSome?_nil, Option.or_none]

variable {t u m rest : Text} {shape : Shape} {rule : Rule} {mark c : Char}

/-! ## Runs -/

theorem run_replicate_append (mark : Char) (n : Nat) (t : Text) :
    run mark (List.replicate n mark ++ t) = (n + (run mark t).1, (run mark t).2) := by
  induction n with
  | zero => simp
  | succ n ih =>
    have hfirst := congrArg Prod.fst ih
    have hrest := congrArg Prod.snd ih
    simp only [run] at hfirst hrest ⊢
    rw [List.replicate_succ, List.cons_append, List.takeWhile_cons_of_pos (by simp),
      List.dropWhile_cons_of_pos (by simp), hrest, List.length_cons, hfirst]
    congr 1
    omega

theorem run_cons_of_ne (h : c ≠ mark) (t : Text) : run mark (c :: t) = (0, c :: t) := by
  unfold run
  rw [List.takeWhile_cons_of_neg (by simpa using h), List.dropWhile_cons_of_neg (by simpa using h)]
  rfl

theorem run_length_le (mark : Char) (t : Text) : (run mark t).2.length ≤ t.length :=
  (List.dropWhile_suffix _).length_le

theorem char_ne (letter : ExponentLetter) : letter.char ≠ '#' ∧ letter.char ≠ '.' := by
  rcases letter with ⟨_ | _, _ | _⟩ <;> decide

theorem ofChar?_char (letter : ExponentLetter) : ExponentLetter.ofChar? letter.char = some letter := by
  rcases letter with ⟨_ | _, _ | _⟩ <;> rfl

theorem point_cons_of_ne (h : c ≠ '.') (t : Text) : point (c :: t) = (false, c :: t) := by
  unfold point
  split
  · rename_i heq
    cases heq
    exact absurd rfl h
  · rfl

theorem point_length_le (t : Text) : (point t).2.length ≤ t.length := by
  unfold point
  split <;> simp

/-! ## A rule reads the marks it is for

Where a text begins with marks of a rule, the rule reads these marks or longer ones. -/

theorem marksRule_append (mark : Char) (build : Nat → Shape) (n : Nat) (t : Text) :
    ∃ shape rest, marksRule mark build (List.replicate (n + 1) mark ++ t) = some (shape, rest) ∧
      rest.length ≤ t.length := by
  have hrun : n + 1 + (run mark t).1 = n + (run mark t).1 + 1 := by omega
  refine ⟨build (n + (run mark t).1 + 2), (run mark t).2, ?_, run_length_le mark t⟩
  simp only [marksRule, run_replicate_append, hrun]

theorem scientificRule_append (before behind exponent : Nat) (radix : Bool) (letter : ExponentLetter)
    (t : Text) : ∃ shape rest, scientificRule (List.replicate before '#' ++ (radixMark radix ++
      (List.replicate behind '#' ++ letter.char :: (List.replicate (exponent + 1) '#' ++ t)))) =
        some (shape, rest) ∧ rest.length ≤ t.length := by
  have hrun : exponent + 1 + (run '#' t).1 = exponent + (run '#' t).1 + 1 := by omega
  obtain ⟨hmark, hpoint⟩ := char_ne letter
  cases radix with
  | false =>
    refine ⟨.scientific ⟨before + behind, 0, false, letter, exponent + (run '#' t).1 + 1⟩, (run '#' t).2, ?_,
      run_length_le '#' t⟩
    simp only [scientificRule, radixMark, Bool.false_eq_true, if_false, List.nil_append,
      run_replicate_append, run_cons_of_ne hmark, point_cons_of_ne hpoint, ofChar?_char, hrun, Nat.add_zero]
  | true =>
    refine ⟨.scientific ⟨before, behind, true, letter, exponent + (run '#' t).1 + 1⟩, (run '#' t).2, ?_,
      run_length_le '#' t⟩
    simp only [scientificRule, radixMark, if_true, List.cons_append, List.nil_append,
      run_replicate_append, run_cons_of_ne (by decide : '.' ≠ '#'), point, run_cons_of_ne hmark,
      ofChar?_char, hrun, Nat.add_zero]

theorem wholeRule_append (before behind : Nat) (radix : Bool) (t : Text) :
    ∃ shape rest, wholeRule (List.replicate (before + 1) '#' ++ (radixMark radix ++
      (List.replicate behind '#' ++ t))) = some (shape, rest) ∧ rest.length ≤ t.length := by
  cases radix with
  | false =>
    -- Without a point the digits behind are digits before, and the rest may begin with a point.
    have hrun : before + 1 + (behind + (run '#' t).1) = before + behind + (run '#' t).1 + 1 := by omega
    have hle := (run_length_le '#' (point (run '#' t).2).2).trans
      ((point_length_le (run '#' t).2).trans (run_length_le '#' t))
    refine ⟨.fixed ⟨before + behind + (run '#' t).1 + 2, (run '#' (point (run '#' t).2).2).1,
      (point (run '#' t).2).1⟩, (run '#' (point (run '#' t).2).2).2, ?_, hle⟩
    simp only [wholeRule, radixMark, Bool.false_eq_true, if_false, List.nil_append, run_replicate_append, hrun]
  | true =>
    refine ⟨.fixed ⟨before + 2, behind + (run '#' t).1, true⟩, (run '#' t).2, ?_, run_length_le '#' t⟩
    simp only [wholeRule, radixMark, if_true, List.cons_append, List.nil_append, run_replicate_append,
      run_cons_of_ne (by decide : '.' ≠ '#'), point, Nat.add_zero]

theorem fractionRule_append (before behind : Nat) (t : Text) :
    ∃ shape rest, fractionRule (List.replicate before '#' ++ (radixMark true ++
      (List.replicate (behind + 1) '#' ++ t))) = some (shape, rest) ∧ rest.length ≤ t.length := by
  have hrun : behind + 1 + (run '#' t).1 = behind + (run '#' t).1 + 1 := by omega
  refine ⟨.fixed ⟨before + 1, behind + (run '#' t).1 + 1, true⟩, (run '#' t).2, ?_, run_length_le '#' t⟩
  simp only [fractionRule, radixMark, if_true, List.cons_append, List.nil_append, run_replicate_append,
    run_cons_of_ne (by decide : '.' ≠ '#'), point, hrun, Nat.add_zero]

namespace Rule

theorem read?_of_draws (h : rule.Draws m) (t : Text) :
    ∃ shape rest, rule.read? (m ++ t) = some (shape, rest) ∧ rest.length ≤ t.length := by
  cases h with
  | right n => exact marksRule_append '>' _ n t
  | center n => exact marksRule_append '|' _ n t
  | scientific before behind exponent radix letter =>
    simp only [List.append_assoc, List.singleton_append]
    exact scientificRule_append before behind exponent radix letter t
  | whole before behind radix =>
    simp only [List.append_assoc]
    exact wholeRule_append before behind radix t
  | fraction before behind =>
    simp only [List.append_assoc]
    exact fractionRule_append before behind t
  | left n => exact marksRule_append '<' _ n t
  | page n => exact marksRule_append '&' _ n t

end Rule

/-! ## What a rule reads is marks it is for -/

theorem marksRule_count {build : Nat → Shape} (h : marksRule mark build t = some (shape, rest)) :
    ∃ n, shape = build (n + 2) := by
  unfold marksRule at h
  generalize run mark t = found at h
  obtain ⟨_ | n, left⟩ := found
  · cases h
  · cases h
    exact ⟨n, rfl⟩

theorem scientificRule_exponent (h : scientificRule t = some (shape, rest)) :
    ∃ before behind radix letter exponent,
      shape = .scientific ⟨before, behind, radix, letter, exponent + 1⟩ := by
  unfold scientificRule at h
  generalize run '#' t = before at h
  generalize hpoint : point before.2 = radix at h
  generalize hbehind : run '#' radix.2 = behind at h
  obtain ⟨count, _ | ⟨c, following⟩⟩ := behind
  · simp only [hpoint, hbehind] at h
    cases h
  · simp only [hpoint, hbehind] at h
    generalize run '#' following = exponent at h
    obtain ⟨_ | exponent, left⟩ := exponent
    · cases hletter : ExponentLetter.ofChar? c <;> rw [hletter] at h <;> cases h
    · cases hletter : ExponentLetter.ofChar? c with
      | none =>
        rw [hletter] at h
        cases h
      | some letter =>
        rw [hletter] at h
        cases h
        exact ⟨before.1, count, radix.1, letter, exponent, rfl⟩

theorem wholeRule_digits (h : wholeRule t = some (shape, rest)) :
    ∃ before behind radix, shape = .fixed ⟨before + 2, behind, radix⟩ := by
  unfold wholeRule at h
  generalize run '#' t = found at h
  obtain ⟨_ | before, left⟩ := found
  · cases h
  · cases h
    exact ⟨before, _, _, rfl⟩

theorem fractionRule_digits (h : fractionRule t = some (shape, rest)) :
    ∃ before behind, shape = .fixed ⟨before + 1, behind + 1, true⟩ := by
  unfold fractionRule at h
  generalize run '#' t = found at h
  obtain ⟨before, left⟩ := found
  simp only at h
  generalize point left = found at h
  obtain ⟨_ | _, following⟩ := found
  · cases h
  · simp only at h
    generalize run '#' following = found at h
    obtain ⟨_ | behind, last⟩ := found
    · cases h
    · cases h
      exact ⟨before, behind, rfl⟩

namespace Rule

theorem draws_of_read? (h : rule.read? t = some (shape, rest)) : rule.Draws shape.marks := by
  cases rule with
  | right =>
    obtain ⟨n, rfl⟩ := marksRule_count h
    exact .right n
  | center =>
    obtain ⟨n, rfl⟩ := marksRule_count h
    exact .center n
  | scientific =>
    obtain ⟨before, behind, radix, letter, exponent, rfl⟩ := scientificRule_exponent h
    exact .scientific before behind exponent radix letter
  | whole =>
    obtain ⟨before, behind, radix, rfl⟩ := wholeRule_digits h
    exact .whole before behind radix
  | fraction =>
    obtain ⟨before, behind, rfl⟩ := fractionRule_digits h
    exact .fraction before behind
  | left =>
    obtain ⟨n, rfl⟩ := marksRule_count h
    exact .left n
  | page =>
    obtain ⟨n, rfl⟩ := marksRule_count h
    exact .page n

theorem reads_of_read? (h : rule.read? t = some (shape, rest)) : Reads t shape rest := by
  cases rule with
  | scientific => exact scientificRule_reads h
  | whole => exact wholeRule_reads h
  | fraction => exact fractionRule_reads h
  | _ => exact marksRule_reads (by simp) (fun _ => rfl) (fun _ => rfl) h

theorem draws_front (h : rule.read? t = some (shape, rest)) : shape.marks <+: t :=
  ⟨rest, (reads_of_read? h).drawn⟩

/-- A rule takes the longest of the marks that it draws. -/
theorem length_le_of_read? (h : rule.read? t = some (shape, rest)) (hdraws : rule.Draws m)
    (hm : m <+: t) : m.length ≤ shape.marks.length := by
  obtain ⟨u, rfl⟩ := hm
  obtain ⟨other, left, hread, hle⟩ := read?_of_draws hdraws u
  rw [h] at hread
  cases hread
  have hlength := congrArg List.length (reads_of_read? h).drawn
  rw [List.length_append, List.length_append] at hlength
  omega

theorem not_draws_of_read? (h : rule.read? t = none) (hm : m <+: t) : ¬ rule.Draws m := by
  intro hdraws
  obtain ⟨u, rfl⟩ := hm
  obtain ⟨other, left, hread, -⟩ := read?_of_draws hdraws u
  rw [h] at hread
  cases hread

end Rule

/-! ## How marks begin -/

/-- The letters of numbers with an exponent. -/
def letters : List Char := ['e', 'E', 'g', 'G']

/-- What marks begin with: a mark of a text or of a page number, a digit, a point before a digit, and a letter
before a digit, perhaps behind a point. -/
def beginnings : List Text :=
  [['>'], ['|'], ['<'], ['&'], ['#'], ['.', '#']] ++
    letters.flatMap fun letter => [[letter, '#'], ['.', letter, '#']]

/-- The text begins with marks of a field. -/
def Opens (t : Text) : Prop := ∃ beginning ∈ beginnings, beginning <+: t

instance (t : Text) : Decidable (Opens t) :=
  inferInstanceAs (Decidable (∃ beginning ∈ beginnings, beginning <+: t))

namespace Rule

/-- What marks of a rule begin with. -/
def beginnings : Rule → List Text
  | right => [['>']]
  | center => [['|']]
  | scientific => [['#'], ['.', '#']] ++ letters.flatMap fun letter => [[letter, '#'], ['.', letter, '#']]
  | whole => [['#']]
  | fraction => [['#'], ['.', '#']]
  | left => [['<']]
  | page => [['&']]

theorem beginnings_subset (rule : Rule) : rule.beginnings ⊆ Shape.beginnings := by
  cases rule <;> decide

theorem beginnings_ne_nil (rule : Rule) : [] ∉ rule.beginnings := by
  cases rule <;> decide

theorem Draws.begins (h : rule.Draws m) : ∃ beginning ∈ rule.beginnings, beginning <+: m := by
  cases h with
  | right n => exact ⟨['>'], by decide, _, rfl⟩
  | center n => exact ⟨['|'], by decide, _, rfl⟩
  | scientific before behind exponent radix letter =>
    cases before with
    | succ before => exact ⟨['#'], by decide, _, rfl⟩
    | zero =>
      cases behind with
      | succ behind =>
        cases radix with
        | false => exact ⟨['#'], by decide, _, rfl⟩
        | true => exact ⟨['.', '#'], by decide, _, rfl⟩
      | zero =>
        cases radix with
        | false => exact ⟨[letter.char, '#'], by rcases letter with ⟨_ | _, _ | _⟩ <;> decide, _, rfl⟩
        | true => exact ⟨['.', letter.char, '#'], by rcases letter with ⟨_ | _, _ | _⟩ <;> decide, _, rfl⟩
  | whole before behind radix => exact ⟨['#'], by decide, _, rfl⟩
  | fraction before behind =>
    cases before with
    | succ before => exact ⟨['#'], by decide, _, rfl⟩
    | zero => exact ⟨['.', '#'], by decide, _, rfl⟩
  | left n => exact ⟨['<'], by decide, _, rfl⟩
  | page n => exact ⟨['&'], by decide, _, rfl⟩

end Rule

theorem exists_draws_of_mem {beginning : Text} (h : beginning ∈ beginnings) :
    ∃ rule : Rule, rule.Draws beginning := by
  rcases List.mem_append.mp h with h | h
  · simp only [List.mem_cons, List.not_mem_nil, or_false] at h
    obtain rfl | rfl | rfl | rfl | rfl | rfl := h
    · exact ⟨_, .right 0⟩
    · exact ⟨_, .center 0⟩
    · exact ⟨_, .left 0⟩
    · exact ⟨_, .page 0⟩
    · exact ⟨_, .whole 0 0 false⟩
    · exact ⟨_, .fraction 0 0⟩
  · obtain ⟨c, hc, hbeginning⟩ := List.mem_flatMap.mp h
    obtain ⟨letter, rfl⟩ : ∃ letter : ExponentLetter, letter.char = c := by
      simp only [letters, List.mem_cons, List.not_mem_nil, or_false] at hc
      obtain rfl | rfl | rfl | rfl := hc
      · exact ⟨⟨false, false⟩, rfl⟩
      · exact ⟨⟨false, true⟩, rfl⟩
      · exact ⟨⟨true, false⟩, rfl⟩
      · exact ⟨⟨true, true⟩, rfl⟩
    simp only [List.mem_cons, List.not_mem_nil, or_false] at hbeginning
    obtain rfl | rfl := hbeginning
    · exact ⟨_, .scientific 0 0 0 false letter⟩
    · exact ⟨_, .scientific 0 0 0 true letter⟩

/-! ## Rules against each other -/

namespace Rule

/-- Marks of two rules at the front of one text begin with the same character. -/
theorem Draws.common {other : Rule} (h : rule.Draws m) (hother : other.Draws u) (hm : m <+: t)
    (hu : u <+: t) : ∃ b ∈ rule.beginnings, ∃ d ∈ other.beginnings, b.head? = d.head? := by
  have hfirst : ∀ {r : Rule} {b : Text}, b ∈ r.beginnings → b <+: t → b.head? = t.head? := by
    rintro r b hb ⟨v, rfl⟩
    refine (List.head?_append_of_ne_nil b ?_).symm
    rintro rfl
    exact r.beginnings_ne_nil hb
  obtain ⟨b, hb, hbm⟩ := h.begins
  obtain ⟨d, hd, hdu⟩ := hother.begins
  exact ⟨b, hb, d, hd, (hfirst hb (hbm.trans hm)).trans (hfirst hd (hdu.trans hu)).symm⟩

/-- Marks without the letter of an exponent are digits and points. -/
theorem Draws.plain (h : rule.Draws m) (hrule : rule = Rule.whole ∨ rule = Rule.fraction) :
    ∀ c ∈ m, c = '#' ∨ c = '.' := by
  have hdigits : ∀ (n : Nat), ∀ c ∈ List.replicate n '#', c = '#' ∨ c = '.' :=
    fun n c hc => .inl (List.eq_of_mem_replicate hc)
  have hpoint : ∀ radix, ∀ c ∈ radixMark radix, c = '#' ∨ c = '.' := by
    intro radix c hc
    cases radix with
    | false => cases hc
    | true => exact .inr (List.mem_singleton.mp hc)
  have hmarks : ∀ before behind radix, ∀ c ∈ List.replicate before '#' ++ radixMark radix ++
      List.replicate behind '#', c = '#' ∨ c = '.' := by
    intro before behind radix c hc
    rcases List.mem_append.mp hc with hc | hc
    · rcases List.mem_append.mp hc with hc | hc
      · exact hdigits before c hc
      · exact hpoint radix c hc
    · exact hdigits behind c hc
  cases h with
  | whole before behind radix => exact hmarks _ _ radix
  | fraction before behind => exact hmarks _ _ true
  | _ => rcases hrule with hrule | hrule <;> cases hrule

/-- The marks of a number with an exponent go beyond all marks without a letter. -/
theorem length_le_of_scientific (h : scientific.read? t = some (shape, rest)) (hdraws : rule.Draws m)
    (hrule : rule = whole ∨ rule = fraction) (hm : m <+: t) : m.length ≤ shape.marks.length := by
  by_contra hlonger
  have hinside : shape.marks <+: m :=
    List.prefix_of_prefix_length_le (draws_front h) hm (by omega)
  obtain ⟨before, behind, radix, letter, exponent, rfl⟩ := scientificRule_exponent h
  have hletter : letter.char ∈ m := hinside.subset (by simp [marks, Scientific.marks])
  obtain ⟨hdigit, hpoint⟩ := char_ne letter
  rcases hdraws.plain hrule _ hletter with heq | heq
  · exact hdigit heq
  · exact hpoint heq

/-- Digits, a point and digits are marks of either rule, but for those that begin with the point. -/
theorem length_le_of_whole (h : whole.read? t = some (shape, rest)) (hdraws : fraction.Draws m)
    (hm : m <+: t) : m.length ≤ shape.marks.length := by
  cases hdraws with
  | fraction before behind =>
    cases before with
    | succ before => exact length_le_of_read? h (.whole before (behind + 1) true) hm
    | zero =>
      have hpoint : ['.'] <+: t := List.IsPrefix.trans ⟨_, rfl⟩ hm
      obtain ⟨c, hc, hcm⟩ := (draws_of_read? h).begins
      obtain rfl := List.mem_singleton.mp hc
      have hsame := List.prefix_of_prefix_length_le (hcm.trans (draws_front h)) hpoint (Nat.le_refl 1)
      cases hsame.eq_of_length rfl

/-- No text begins with longer marks, whatever the rule. -/
def Longest (t : Text) (shape : Shape) : Prop :=
  ∀ (rule : Rule) (m : Text), rule.Draws m → m <+: t → m.length ≤ shape.marks.length

/-- A rule whose marks begin as no other marks do takes the `Longest`. -/
theorem longest_alone {picked : Rule} (h : picked.read? t = some (shape, rest))
    (halone : ∀ rule : Rule, (∃ b ∈ picked.beginnings, ∃ d ∈ rule.beginnings, b.head? = d.head?) →
      rule = picked) : Longest t shape := by
  intro rule m hdraws hm
  obtain rfl := halone rule ((draws_of_read? h).common hdraws (draws_front h) hm)
  exact length_le_of_read? h hdraws hm

/-- A number at the front of a text leaves room for the marks of numbers only. -/
theorem longest_number {picked : Rule} (h : picked.read? t = some (shape, rest))
    (hpicked : picked = scientific ∨ picked = whole ∨ picked = fraction)
    (hscientific : ∀ m, scientific.Draws m → m <+: t → m.length ≤ shape.marks.length)
    (hwhole : ∀ m, whole.Draws m → m <+: t → m.length ≤ shape.marks.length)
    (hfraction : ∀ m, fraction.Draws m → m <+: t → m.length ≤ shape.marks.length) : Longest t shape := by
  intro rule m hdraws hm
  have hcommon := (draws_of_read? h).common hdraws (draws_front h) hm
  have hrule : rule = scientific ∨ rule = whole ∨ rule = fraction := by
    revert hcommon
    rcases hpicked with rfl | rfl | rfl <;> cases rule <;> decide
  rcases hrule with rfl | rfl | rfl
  · exact hscientific m hdraws hm
  · exact hwhole m hdraws hm
  · exact hfraction m hdraws hm

end Rule

open Rule

/-- The rule that `read?` uses takes the `Longest` of the marks of all rules. -/
theorem read?_longest (h : read? t = some (shape, rest)) :
    ∃ picked : Rule, picked.read? t = some (shape, rest) ∧ Longest t shape := by
  rw [read?_eq] at h
  simp only [Option.or_eq_some_iff] at h
  obtain h | ⟨-, h | ⟨-, h | ⟨hscientific, h | ⟨hwhole, h | ⟨-, h | ⟨-, h⟩⟩⟩⟩⟩⟩ := h
  · exact ⟨.right, h, longest_alone h (by intro rule; cases rule <;> decide)⟩
  · exact ⟨.center, h, longest_alone h (by intro rule; cases rule <;> decide)⟩
  · refine ⟨.scientific, h, longest_number h (.inl rfl) ?_ ?_ ?_⟩
    · exact fun m hdraws hm => length_le_of_read? h hdraws hm
    · exact fun m hdraws hm => length_le_of_scientific h hdraws (.inl rfl) hm
    · exact fun m hdraws hm => length_le_of_scientific h hdraws (.inr rfl) hm
  · refine ⟨.whole, h, longest_number h (.inr (.inl rfl)) ?_ ?_ ?_⟩
    · exact fun m hdraws hm => absurd hdraws (not_draws_of_read? hscientific hm)
    · exact fun m hdraws hm => length_le_of_read? h hdraws hm
    · exact fun m hdraws hm => length_le_of_whole h hdraws hm
  · refine ⟨.fraction, h, longest_number h (.inr (.inr rfl)) ?_ ?_ ?_⟩
    · exact fun m hdraws hm => absurd hdraws (not_draws_of_read? hscientific hm)
    · exact fun m hdraws hm => absurd hdraws (not_draws_of_read? hwhole hm)
    · exact fun m hdraws hm => length_le_of_read? h hdraws hm
  · exact ⟨.left, h, longest_alone h (by intro rule; cases rule <;> decide)⟩
  · exact ⟨.page, h, longest_alone h (by intro rule; cases rule <;> decide)⟩

/-- Some rule applies just where a text `Opens`. -/
theorem read?_isSome : (read? t).isSome ↔ Opens t := by
  constructor
  · intro h
    obtain ⟨⟨shape, rest⟩, hread⟩ := Option.isSome_iff_exists.mp h
    obtain ⟨picked, hpicked, -⟩ := read?_longest hread
    obtain ⟨beginning, hmem, hbegin⟩ := (draws_of_read? hpicked).begins
    exact ⟨beginning, picked.beginnings_subset hmem, hbegin.trans (draws_front hpicked)⟩
  · rintro ⟨beginning, hmem, rest, rfl⟩
    obtain ⟨rule, hdraws⟩ := exists_draws_of_mem hmem
    obtain ⟨shape, left, hread, -⟩ := read?_of_draws hdraws rest
    rw [read?, List.findSome?_isSome_iff, rules_eq]
    exact ⟨rule.read?, List.mem_map_of_mem (by cases rule <;> decide), by rw [hread]; rfl⟩

end Shape

/-! ## Introducers of a line -/

/-- The text behind the column `p`, up to the next introducer. -/
def PictureLine.tailAt (line : Text) (p : Nat) : Text :=
  (line.drop (p + 1)).takeWhile fun c => !isIntroducer c

/-- In the column `p` there is the introducer `start`, and behind it no marks of a field. -/
def PictureLine.MalformedAt (t : Text) (p : Nat) (start : Char) : Prop :=
  t[p]? = some start ∧ isIntroducer start = true ∧ ¬ Shape.Opens (tailAt t p)

/-- The last malformed introducer of the line. -/
def PictureLine.LastMalformed (line : Text) (p : Nat) (start : Char) : Prop :=
  MalformedAt line p start ∧ ∀ q other, MalformedAt line q other → q ≤ p

namespace Segment

open PictureLine

variable {line rest tail : Text} {c start : Char} {fault : Fault} {p : Nat}

theorem readField_ok {f : Field} {left : Text} {whole : Option Text} :
    readField whole [start] tail = .ok (f, left) ↔
      Shape.read? tail = some (f.shape, left) ∧ f.chomp = decide (start = '^') := by
  obtain ⟨shape, chomp⟩ := f
  unfold readField
  cases Shape.read? tail with
  | none => simp
  | some found =>
    obtain ⟨other, others⟩ := found
    have hcaret : ([start] = ['^']) = (start = '^') := by simp
    simp only [hcaret, Except.ok.injEq, Prod.mk.injEq, Field.mk.injEq, Option.some.injEq]
    constructor
    · rintro ⟨⟨rfl, rfl⟩, rfl⟩
      exact ⟨⟨rfl, rfl⟩, rfl⟩
    · rintro ⟨⟨rfl, rfl⟩, rfl⟩
      exact ⟨⟨rfl, rfl⟩, rfl⟩

theorem pieces_fst (line : Text) : (pieces line).1 = line.takeWhile fun c => !isIntroducer c := by
  induction line with
  | nil => rfl
  | cons c rest ih =>
    by_cases hc : isIntroducer c = true
    · rw [List.takeWhile_cons_of_neg (by simpa using hc)]
      simp only [pieces, hc, if_true]
    · rw [List.takeWhile_cons_of_pos (by simpa using hc), ← ih]
      simp only [pieces, hc, Bool.false_eq_true, if_false]

theorem pieces_snd (c : Char) (rest : Text) : (pieces (c :: rest)).2 =
    if isIntroducer c then (c, (pieces rest).1) :: (pieces rest).2 else (pieces rest).2 := by
  by_cases hc : isIntroducer c = true
  · simp only [pieces, hc, if_true]
  · simp only [pieces, hc, Bool.false_eq_true, if_false]

/-- A piece is malformed only if those behind it are not: `ofPieces` reads the last piece first. -/
theorem ofPieces_error_cons {others : List (Char × Text)} :
    ofPieces line ((start, tail) :: others) = .error fault ↔
      ofPieces line others = .error fault ∨
        (∃ following, ofPieces line others = .ok following) ∧ Shape.read? tail = none ∧
          fault = .malformedField (start :: tail) (some line) := by
  simp only [ofPieces, readField, bind, Except.bind, pure, Except.pure]
  cases hothers : ofPieces line others with
  | error other => simp
  | ok following =>
    cases hshape : Shape.read? tail with
    | none => simp [eq_comm]
    | some found => simp

theorem ofPieces_ok_cons {others : List (Char × Text)} :
    (∃ segments, ofPieces line ((start, tail) :: others) = .ok segments) ↔
      (∃ following, ofPieces line others = .ok following) ∧ (Shape.read? tail).isSome := by
  constructor
  · rintro ⟨segments, h⟩
    obtain ⟨following, shape, rest, hothers, hread, -⟩ := ofPieces_cons.mp h
    exact ⟨⟨following, hothers⟩, by rw [hread]; rfl⟩
  · rintro ⟨⟨following, hothers⟩, hsome⟩
    obtain ⟨⟨shape, rest⟩, hread⟩ := Option.isSome_iff_exists.mp hsome
    exact ⟨_, ofPieces_cons.mpr ⟨following, shape, rest, hothers, hread, rfl⟩⟩

theorem malformedAt_zero : MalformedAt (c :: rest) 0 start ↔
    start = c ∧ isIntroducer c = true ∧ Shape.read? (pieces rest).1 = none := by
  have htail : tailAt (c :: rest) 0 = (pieces rest).1 := (pieces_fst rest).symm
  rw [MalformedAt, htail, ← Shape.read?_isSome, Option.not_isSome_iff_eq_none, List.getElem?_cons_zero,
    Option.some.injEq]
  constructor
  · rintro ⟨rfl, hrest⟩
    exact ⟨rfl, hrest⟩
  · rintro ⟨rfl, hrest⟩
    exact ⟨rfl, hrest⟩

theorem lastMalformed_zero : LastMalformed (c :: rest) 0 start ↔
    MalformedAt (c :: rest) 0 start ∧ ∀ q other, ¬ MalformedAt rest q other := by
  refine and_congr_right fun _ => ⟨fun h q other hother => ?_, fun h q other hother => ?_⟩
  · exact Nat.not_succ_le_zero q (h (q + 1) other hother)
  · cases q with
    | zero => exact Nat.le_refl 0
    | succ q => exact absurd hother (h q other)

theorem lastMalformed_succ : LastMalformed (c :: rest) (p + 1) start ↔ LastMalformed rest p start := by
  refine and_congr_right fun _ => ⟨fun h q other hother => ?_, fun h q other hother => ?_⟩
  · exact Nat.le_of_succ_le_succ (h (q + 1) other hother)
  · cases q with
    | zero => exact Nat.zero_le _
    | succ q => exact Nat.succ_le_succ (h q other hother)

/-- The last malformed introducer is the first one of the line, or the last behind it. -/
theorem exists_lastMalformed_cons : (∃ p start, LastMalformed (c :: rest) p start ∧
      fault = .malformedField (start :: tailAt (c :: rest) p) (some line)) ↔
    ((∀ q other, ¬ MalformedAt rest q other) ∧ isIntroducer c = true ∧ Shape.read? (pieces rest).1 = none ∧
      fault = .malformedField (c :: (pieces rest).1) (some line)) ∨
    ∃ p start, LastMalformed rest p start ∧ fault = .malformedField (start :: tailAt rest p) (some line) := by
  rw [← Nat.or_exists_add_one]
  refine or_congr ?_ (exists_congr fun p => exists_congr fun start => and_congr_left' lastMalformed_succ)
  have htail : tailAt (c :: rest) 0 = (pieces rest).1 := (pieces_fst rest).symm
  simp only [lastMalformed_zero, malformedAt_zero, htail]
  constructor
  · rintro ⟨start, ⟨⟨rfl, hc, hread⟩, hothers⟩, hfault⟩
    exact ⟨hothers, hc, hread, hfault⟩
  · rintro ⟨hothers, hc, hread, hfault⟩
    exact ⟨c, ⟨⟨rfl, hc, hread⟩, hothers⟩, hfault⟩

theorem forall_malformed_cons : (∀ p start, ¬ MalformedAt (c :: rest) p start) ↔
    ¬ (isIntroducer c = true ∧ Shape.read? (pieces rest).1 = none) ∧ ∀ p start, ¬ MalformedAt rest p start := by
  rw [← Nat.and_forall_add_one]
  refine and_congr ?_ Iff.rfl
  simp only [malformedAt_zero]
  constructor
  · exact fun h hc => h c ⟨rfl, hc⟩
  · rintro h start ⟨-, hc⟩
    exact h hc

/-- `ofPieces` fails for the last malformed introducer.  By induction on the line: what is malformed behind
its first character is reported before that. -/
theorem ofPieces_malformed (line rest : Text) :
    (∀ fault, ofPieces line (pieces rest).2 = .error fault ↔
      ∃ p start, LastMalformed rest p start ∧
        fault = .malformedField (start :: tailAt rest p) (some line)) ∧
    ((∃ segments, ofPieces line (pieces rest).2 = .ok segments) ↔ ∀ p start, ¬ MalformedAt rest p start) := by
  induction rest with
  | nil =>
    have hnone : ∀ p start, ¬ MalformedAt [] p start := fun p start h => Option.some_ne_none start h.1.symm
    refine ⟨fun fault => ⟨fun h => ?_, fun h => ?_⟩, fun _ => hnone, fun _ => ⟨[], rfl⟩⟩
    · cases h
    · obtain ⟨p, start, hlast, -⟩ := h
      exact absurd hlast.1 (hnone p start)
  | cons c rest ih =>
    obtain ⟨herror, hok⟩ := ih
    rw [pieces_snd]
    simp only [exists_lastMalformed_cons, forall_malformed_cons]
    by_cases hc : isIntroducer c = true
    · simp only [hc, if_true, true_and, ofPieces_error_cons, ofPieces_ok_cons, herror, hok]
      refine ⟨fun fault => or_comm, ?_⟩
      rw [Option.isSome_iff_ne_none, ne_eq, and_comm]
    · simp only [hc, Bool.false_eq_true, if_false, false_and, and_false, false_or, not_false_eq_true,
        true_and, herror, hok, implies_true, and_self]

theorem ofLine_error : ofLine line = .error fault ↔ ofPieces line (pieces line).2 = .error fault := by
  simp only [ofLine, bind, Except.bind, pure, Except.pure]
  cases ofPieces line (pieces line).2 with
  | error other => simp
  | ok following => simp

theorem ofLine_ok : (∃ segments, ofLine line = .ok segments) ↔
    ∃ segments, ofPieces line (pieces line).2 = .ok segments := by
  simp only [ofLine_eq_ok]
  constructor
  · rintro ⟨segments, following, hpieces, -⟩
    exact ⟨following, hpieces⟩
  · rintro ⟨following, hpieces⟩
    exact ⟨_, following, hpieces, rfl⟩

/-- A field is read behind an introducer just where marks begin.  Of the marks that the text begins with, by
whatever rule, those of the field are the longest; they are what its source has behind the introducer, and the
rest follows them.  A line is refused just if behind some introducer of it no marks begin; then the last such
introducer is reported with the text up to the next one, and with the line. -/
theorem fields_classified (start : Char) (tail line : Text) :
    ((∃ f rest, readField none [start] tail = .ok (f, rest)) ↔ Shape.Opens tail) ∧
      (∀ fault, readField none [start] tail = .error fault ↔
        ¬ Shape.Opens tail ∧ fault = .malformedField (start :: tail) none) ∧
      (∀ f rest, readField none [start] tail = .ok (f, rest) →
        f.chomp = decide (start = '^') ∧ tail = f.source.tail ++ rest ∧
        ∃ picked : Shape.Rule, picked.read? tail = some (f.shape, rest) ∧
          Shape.Rule.Longest tail f.shape ∧
          ∀ (rule : Shape.Rule) (other : Shape) (left : Text), rule.read? tail = some (other, left) →
            rest.length ≤ left.length) ∧
      (∀ fault, ofLine line = .error fault ↔ ∃ p first, LastMalformed line p first ∧
        fault = .malformedField (first :: tailAt line p) (some line)) ∧
      ((∃ segments, ofLine line = .ok segments) ↔ ∀ p first, ¬ MalformedAt line p first) := by
  obtain ⟨herror, hok⟩ := ofPieces_malformed line line
  refine ⟨?_, fun fault => ?_, fun f rest h => ?_, fun fault => ?_, ?_⟩
  · rw [← Shape.read?_isSome, Option.isSome_iff_exists]
    constructor
    · rintro ⟨f, rest, h⟩
      exact ⟨(f.shape, rest), (readField_ok.mp h).1⟩
    · rintro ⟨⟨shape, rest⟩, hread⟩
      exact ⟨⟨shape, decide (start = '^')⟩, rest, readField_ok.mpr ⟨hread, rfl⟩⟩
  · rw [← Shape.read?_isSome, Option.not_isSome_iff_eq_none]
    unfold readField
    cases Shape.read? tail with
    | none => simp [eq_comm]
    | some found => simp
  · obtain ⟨hread, hchomp⟩ := readField_ok.mp h
    obtain ⟨picked, hpicked, hlongest⟩ := Shape.read?_longest hread
    have hdrawn : tail = f.shape.marks ++ rest := (Shape.read?_reads hread).drawn.symm
    refine ⟨hchomp, hdrawn, picked, hpicked, hlongest, fun rule other left hother => ?_⟩
    have hle := hlongest rule other.marks (Shape.Rule.draws_of_read? hother) (Shape.Rule.draws_front hother)
    have hlength := congrArg List.length (hdrawn.symm.trans (Shape.Rule.reads_of_read? hother).drawn.symm)
    rw [List.length_append, List.length_append] at hlength
    omega
  · rw [ofLine_error, herror]
  · rw [ofLine_ok, hok]

/-- Two fields are malformed and the last one is reported; the text behind it ends before the good one. -/
example : ofLine "a@x ^y. @<".toList =
    .error (.malformedField "^y. ".toList (some "a@x ^y. @<".toList)) := by rfl

end Segment

end PictureReport
