import Readiness.Proofs.DottedVersion
import Readiness.Proofs.Rows

/-!
Where the numbers of a host's version come from. A version text that names its build in parentheses
settles all three, unless its first number fits no word; after it the first dotted version counts,
of the kernel before the version text.
-/

namespace Readiness.OsVersion

open Text (isBlank isDecimalDigit)

section Shape

variable {cs major build rest : List Char} {minor? : Option (List Char)} {text : String}

/-- At least one digit, and nothing else. -/
structure IsRun (run : List Char) : Prop where
  ne_nil : run ≠ []
  digits : ∀ c ∈ run, isDecimalDigit c = true

/-- A number behind a dot, if there is one. -/
def dotted : Option (List Char) → List Char
  | none => []
  | some run => '.' :: run

/-- A text begins with a version that names its build, as `6.3 (9600)` and `10 (19045)` do. -/
structure NamesBuild (cs major : List Char) (minor? : Option (List Char)) (build : List Char) :
    Prop where
  isRun_major : IsRun major
  isRun_minor : ∀ run ∈ minor?, IsRun run
  isRun_build : IsRun build
  text : ∃ blanks rest, (∀ c ∈ blanks, isBlank c = true) ∧
    cs = major ++ (dotted minor? ++ (blanks ++ '(' :: (build ++ ')' :: rest)))

/-- What stands behind the number after a dot. -/
def behindMinor (cs : List Char) : List Char :=
  if (afterDot cs).isEmpty then cs else (cs.drop 1).dropWhile isDecimalDigit

theorem isDecimalDigit_of_isBlank {c : Char} (h : isBlank c = true) : isDecimalDigit c = false := by
  have hblanks : ∀ n ∈ [9, 10, 11, 12, 13, 0x20, 0x85, 0xA0, 0x1680, 0x2000, 0x2001, 0x2002, 0x2003,
      0x2004, 0x2005, 0x2006, 0x2007, 0x2008, 0x2009, 0x200A, 0x2028, 0x2029, 0x202F, 0x205F,
      0x3000], isDecimalDigit (Char.ofNat n) = false := by
    decide
  -- The ranges of blanks and of digits have no order between them, so that each blank is tried.
  rw [← Char.ofNat_toNat c]
  refine hblanks c.toNat ?_
  simp only [isBlank, Bool.or_eq_true, Bool.and_eq_true, decide_eq_true_eq, beq_iff_eq] at h
  simp only [List.mem_cons, List.not_mem_nil, or_false]
  omega

theorem afterDot_dotted (hminor : ∀ run ∈ minor?, IsRun run) (hdot : rest.head? ≠ some '.')
    (hrest : rest.head?.all (!isDecimalDigit ·) = true) :
    afterDot (dotted minor? ++ rest) = minor?.getD [] ∧ behindMinor (dotted minor? ++ rest) = rest := by
  cases minor? with
  | none =>
      have hnone : afterDot rest = [] := by
        rw [afterDot.eq_def]
        split
        · exact absurd rfl hdot
        · rfl
      exact ⟨hnone, by rw [dotted, List.nil_append, behindMinor, hnone]; rfl⟩
  | some run =>
      obtain ⟨hne, hdigits⟩ := hminor run rfl
      obtain ⟨htake, hdrop⟩ := Text.takeWhile_run hdigits rest hrest
      have hafter : afterDot (dotted (some run) ++ rest) = run := htake
      refine ⟨hafter, ?_⟩
      rw [behindMinor, hafter, if_neg (mt List.isEmpty_iff.mp hne)]
      exact hdrop

theorem exists_dotted (cs : List Char) :
    ∃ minor?, (∀ run ∈ minor?, IsRun run) ∧ minor?.getD [] = afterDot cs ∧
      cs = dotted minor? ++ behindMinor cs := by
  by_cases h : afterDot cs = []
  · exact ⟨none, by simp, h.symm, by rw [behindMinor, h]; rfl⟩
  · obtain ⟨more, rfl⟩ : ∃ more, cs = '.' :: more := by
      rw [afterDot.eq_def] at h
      split at h
      · exact ⟨_, rfl⟩
      · exact absurd rfl h
    refine ⟨some (more.takeWhile isDecimalDigit), ?_, rfl, ?_⟩
    · rintro run ⟨⟩
      exact ⟨h, fun _ => List.mem_takeWhile_imp⟩
    · rw [behindMinor, if_neg (mt List.isEmpty_iff.mp h)]
      exact congrArg ('.' :: ·) List.takeWhile_append_dropWhile.symm

theorem parenthesised?_eq (hcs : Text.trimBlanks text.toList = cs) :
    parenthesised? text =
      match (behindMinor (cs.dropWhile isDecimalDigit)).dropWhile isBlank with
      | '(' :: rest =>
        if !(rest.takeWhile isDecimalDigit).isEmpty &&
            (rest.dropWhile isDecimalDigit).head? == some ')' then
          (number? (cs.takeWhile isDecimalDigit)).map fun n =>
            (n, (number? (afterDot (cs.dropWhile isDecimalDigit))).getD 0,
              (number? (rest.takeWhile isDecimalDigit)).getD 0)
        else none
      | _ => none := by
  subst hcs
  rfl

theorem getD_number?_minor (hminor : ∀ run ∈ minor?, IsRun run) :
    (number? (minor?.getD [])).getD 0 = minor?.elim 0 numeral := by
  cases minor? with
  | none => rfl
  | some run => exact getD_number? (hminor run rfl).digits

/-- What follows the digits of a number is a dot, a blank or a parenthesis. -/
theorem head?_behind_digits (hblanks : ∀ c ∈ cs, isBlank c = true) (rest : List Char) :
    (cs ++ '(' :: rest).head?.all (!isDecimalDigit ·) = true ∧
      (cs ++ '(' :: rest).head? ≠ some '.' := by
  cases cs with
  | nil => exact ⟨rfl, by simp⟩
  | cons c cs =>
      have hc : isBlank c = true := hblanks c List.mem_cons_self
      constructor
      · simp [isDecimalDigit_of_isBlank hc]
      · intro hdot
        obtain rfl : c = '.' := Option.some.inj hdot
        exact absurd hc (by decide)

theorem parenthesised?_of_namesBuild
    (h : NamesBuild (Text.trimBlanks text.toList) major minor? build) :
    parenthesised? text =
      if FitsWord major then some (numeral major, minor?.elim 0 numeral, numeral build)
      else none := by
  obtain ⟨blanks, rest, hblanks, hcs⟩ := h.text
  obtain ⟨hdigit, hdot⟩ := head?_behind_digits hblanks (build ++ ')' :: rest)
  have hbehind : (dotted minor? ++ (blanks ++ '(' :: (build ++ ')' :: rest))).head?.all
      (!isDecimalDigit ·) = true := by
    cases minor? with
    | none => exact hdigit
    | some run => rfl
  obtain ⟨htake, hdrop⟩ := Text.takeWhile_run h.isRun_major.digits _ hbehind
  obtain ⟨hminor, hrest⟩ := afterDot_dotted h.isRun_minor hdot hdigit
  obtain ⟨-, hblank⟩ := Text.takeWhile_run hblanks ('(' :: (build ++ ')' :: rest)) rfl
  obtain ⟨hbuild, hclose⟩ := Text.takeWhile_run h.isRun_build.digits (')' :: rest) rfl
  have hne : build.isEmpty = false := by simpa using h.isRun_build.ne_nil
  rw [parenthesised?_eq hcs, htake, hdrop, hminor, hrest, hblank]
  simp only [hbuild, hclose, hne, List.head?_cons, beq_self_eq_true, Bool.not_false, Bool.and_self,
    if_true, getD_number?_minor h.isRun_minor, getD_number? h.isRun_build.digits,
    number?_run h.isRun_major.ne_nil h.isRun_major.digits]
  split <;> rfl

theorem exists_namesBuild {v : UInt32 × UInt32 × UInt32} (h : parenthesised? text = some v) :
    ∃ major minor? build, NamesBuild (Text.trimBlanks text.toList) major minor? build := by
  rw [parenthesised?_eq rfl] at h
  generalize Text.trimBlanks text.toList = cs at h ⊢
  obtain ⟨minor?, hminor, -, hbehind⟩ := exists_dotted (cs.dropWhile isDecimalDigit)
  split at h
  · rename_i rest hopen
    split at h
    · rename_i hclosed
      obtain ⟨hbuild, hclose⟩ := Bool.and_eq_true_iff.mp hclosed
      obtain ⟨tail, htail⟩ : ∃ tail, rest.dropWhile isDecimalDigit = ')' :: tail := by
        cases hrest : rest.dropWhile isDecimalDigit with
        | nil => simp [hrest] at hclose
        | cons c tail => exact ⟨tail, by simpa [hrest] using hclose⟩
      have hmajor : cs.takeWhile isDecimalDigit ≠ [] := by
        intro hnil
        rw [hnil] at h
        cases h
      refine ⟨cs.takeWhile isDecimalDigit, minor?, rest.takeWhile isDecimalDigit,
        ⟨hmajor, fun _ => List.mem_takeWhile_imp⟩, hminor,
        ⟨by simpa using hbuild, fun _ => List.mem_takeWhile_imp⟩,
        (behindMinor (cs.dropWhile isDecimalDigit)).takeWhile isBlank, tail,
        fun _ => List.mem_takeWhile_imp, ?_⟩
      -- Each part and what was left behind it make up the text again, from the last part on.
      rw [← htail, List.takeWhile_append_dropWhile, ← hopen, List.takeWhile_append_dropWhile,
        ← hbehind, List.takeWhile_append_dropWhile]
    · cases h
  · cases h

theorem parenthesised?_eq_none_iff :
    parenthesised? text = none ↔ ∀ major minor? build,
      NamesBuild (Text.trimBlanks text.toList) major minor? build → ¬ FitsWord major := by
  constructor
  · intro hnone major minor? build h hfits
    rw [parenthesised?_of_namesBuild h, if_pos hfits] at hnone
    cases hnone
  · intro hunfit
    cases hfound : parenthesised? text with
    | none => rfl
    | some v =>
        obtain ⟨major, minor?, build, h⟩ := exists_namesBuild hfound
        rw [parenthesised?_of_namesBuild h, if_neg (hunfit _ _ _ h)] at hfound
        cases hfound

end Shape

section Written

theorem isDecimalDigit_of_isDigit {c : Char} (h : c.isDigit = true) : isDecimalDigit c = true := by
  obtain ⟨hzero, hnine⟩ := Bool.and_eq_true_iff.mp h
  have hlow : 0x30 ≤ c.toNat := of_decide_eq_true hzero
  have hhigh : c.toNat ≤ 0x39 := of_decide_eq_true hnine
  rw [isDecimalDigit, Text.decimalDigitRanges, List.any_cons]
  simp [hlow, hhigh]

theorem isDigit_digits {n : Nat} : ∀ c ∈ Nat.toDigits 10 n, c.isDigit = true := fun _ hc =>
  Nat.isDigit_of_mem_toDigits (by decide) (by decide) hc

theorem isRun_digits (n : Nat) : IsRun (Nat.toDigits 10 n) :=
  ⟨Nat.toDigits_ne_nil, fun c hc => isDecimalDigit_of_isDigit (isDigit_digits c hc)⟩

theorem fitsWord_digits (a : UInt32) : FitsWord (Nat.toDigits 10 a.toNat) := by
  refine ⟨isDigit_digits, ?_⟩
  rw [Nat.ofDigitChars_ten_toDigits]
  exact a.toNat_lt

theorem numeral_digits (a : UInt32) : numeral (Nat.toDigits 10 a.toNat) = a := by
  rw [numeral, if_pos (fitsWord_digits a), Nat.ofDigitChars_ten_toDigits, UInt32.ofNat_toNat]

/-- A version that names its build, as it is written; the minor number may be left out. -/
def written (major : UInt32) (minor? : Option UInt32) (build : UInt32) : String :=
  match minor? with
  | none => toString major ++ " (" ++ toString build ++ ")"
  | some minor => toString major ++ "." ++ toString minor ++ " (" ++ toString build ++ ")"

theorem toList_written (major : UInt32) (minor? : Option UInt32) (build : UInt32) :
    (written major minor? build).toList =
      Nat.toDigits 10 major.toNat ++ (dotted (minor?.map fun minor => Nat.toDigits 10 minor.toNat) ++
        ([' '] ++ '(' :: (Nat.toDigits 10 build.toNat ++ [')']))) := by
  have hdigits (a : UInt32) : (toString a).toList = Nat.toDigits 10 a.toNat := Nat.toList_repr
  have hopen : " (".toList = [' ', '('] := rfl
  have hdot : ".".toList = ['.'] := rfl
  have hclose : ")".toList = [')'] := rfl
  cases minor? with
  | none => simp [written, dotted, hdigits, hopen, hclose]
  | some minor => simp [written, dotted, hdigits, hdot, hopen, hclose]

theorem namesBuild_written (major : UInt32) (minor? : Option UInt32) (build : UInt32) :
    NamesBuild (Text.trimBlanks (written major minor? build).toList) (Nat.toDigits 10 major.toNat)
      (minor?.map fun minor => Nat.toDigits 10 minor.toNat) (Nat.toDigits 10 build.toNat) := by
  have htext := toList_written major minor? build
  have htrim : Text.trimBlanks (written major minor? build).toList =
      (written major minor? build).toList := by
    rw [htext]
    refine Text.trimBlanks_eq_self ?_ (by simp [List.getLast?_cons, isBlank])
    obtain ⟨c, cs, hcs⟩ := List.exists_cons_of_ne_nil (isRun_digits major.toNat).ne_nil
    have hdigit := (isRun_digits major.toNat).digits c (hcs ▸ List.mem_cons_self)
    have hblank : isBlank c = false := Bool.eq_false_iff.mpr fun h =>
      Bool.false_ne_true ((isDecimalDigit_of_isBlank h).symm.trans hdigit)
    simp [hcs, hblank]
  refine ⟨isRun_digits _, ?_, isRun_digits _, [' '], [],
    List.forall_mem_singleton.mpr (by decide), htrim.trans htext⟩
  rintro run hrun
  obtain ⟨minor, -, rfl⟩ := Option.map_eq_some_iff.mp hrun
  exact isRun_digits _

end Written

section Sources

variable {longName version kernel : Option String}

/-- The version that is described by its build. -/
def ofBuild (longName : Option String) (major minor build : UInt32) : OsVersion where
  description :=
    longName.getD ("Windows " ++ toString major) ++ " (build " ++ toString build ++ ")"
  major := major
  minor := minor
  build := build

def numbers (v : OsVersion) : UInt32 × UInt32 × UInt32 := (v.major, v.minor, v.build)

/-- There is a text, and a dot in it stands between two digits. -/
def HoldsDotted (text? : Option String) : Prop :=
  ∃ text front back, text? = some text ∧ DotAt text.toList front back

/-- The version text without the blanks at its ends begins with a version that names its build,
and the first number of that fits a word. -/
def TellsBuild (version : Option String) (major : List Char) (minor? : Option (List Char))
    (build : List Char) : Prop :=
  ∃ text, version = some text ∧ NamesBuild (Text.trimBlanks text.toList) major minor? build ∧
    FitsWord major

theorem bind_parse_eq_none_iff {text? : Option String} :
    text?.bind parse = none ↔ ¬ HoldsDotted text? := by
  cases text? with
  | none => simp [HoldsDotted]
  | some text => simp [HoldsDotted, parse_eq_none_iff]

theorem assemble_of_tellsBuild {major build : List Char} {minor? : Option (List Char)}
    (h : TellsBuild version major minor? build) :
    assemble longName version kernel =
      some (ofBuild longName (numeral major) (minor?.elim 0 numeral) (numeral build)) := by
  obtain ⟨text, rfl, hnames, hfits⟩ := h
  rw [assemble, Option.bind_some, parenthesised?_of_namesBuild hnames, if_pos hfits]
  rfl

theorem assemble_of_not_tellsBuild
    (h : ∀ major minor? build, ¬ TellsBuild version major minor? build) :
    assemble longName version kernel =
      ((kernel.bind parse).or (version.bind parse)).map fun v =>
        { v with description := described longName kernel v.description } := by
  have hnone : version.bind parenthesised? = none := by
    cases version with
    | none => rfl
    | some text =>
        exact parenthesised?_eq_none_iff.mpr fun major minor? build hnames hfits =>
          h major minor? build ⟨text, rfl, hnames, hfits⟩
  rw [assemble, hnone]

/-- Where a host's version comes from. A version text that names its build tells all numbers,
whatever the kernel says, and the long name describes them. Without one they are those of the
first dotted version in the kernel's text, or else in the version text, and there is no version
exactly if neither holds one. What is written with a build is read back. -/
theorem assemble_tells_numbers (longName version kernel : Option String) :
    (∀ major minor? build, TellsBuild version major minor? build →
      assemble longName version kernel =
        some (ofBuild longName (numeral major) (minor?.elim 0 numeral) (numeral build))) ∧
    ((∀ major minor? build, ¬ TellsBuild version major minor? build) →
      (HoldsDotted kernel →
        (assemble longName version kernel).map numbers = (kernel.bind parse).map numbers) ∧
      (¬ HoldsDotted kernel →
        (assemble longName version kernel).map numbers = (version.bind parse).map numbers) ∧
      (assemble longName version kernel = none ↔ ¬ HoldsDotted kernel ∧ ¬ HoldsDotted version)) ∧
    ∀ major minor? build,
      assemble longName (some (written major minor? build)) kernel =
        some (ofBuild longName major (minor?.getD 0) build) := by
  refine ⟨fun _ _ _ h => assemble_of_tellsBuild h, fun h => ?_, fun major minor? build => ?_⟩
  · -- The description leaves the numbers alone.
    have hmap : (assemble longName version kernel).map numbers =
        ((kernel.bind parse).or (version.bind parse)).map numbers := by
      rw [assemble_of_not_tellsBuild h, Option.map_map]
      rfl
    refine ⟨fun hkernel => ?_, fun hkernel => ?_, ?_⟩
    · obtain ⟨v, hv⟩ := Option.ne_none_iff_exists'.mp fun hnone =>
        bind_parse_eq_none_iff.mp hnone hkernel
      rw [hmap, hv]
      rfl
    · rw [hmap, bind_parse_eq_none_iff.mpr hkernel]
      rfl
    · rw [assemble_of_not_tellsBuild h, Option.map_eq_none_iff, Option.or_eq_none_iff,
        bind_parse_eq_none_iff, bind_parse_eq_none_iff]
  · have htells : TellsBuild (some (written major minor? build)) _ _ _ :=
      ⟨_, rfl, namesBuild_written major minor? build, fitsWord_digits major⟩
    rw [assemble_of_tellsBuild htells, numeral_digits, numeral_digits]
    cases minor? with
    | none => rfl
    | some minor => rw [Option.map_some, Option.elim_some, numeral_digits, Option.getD_some]

/-- A first number that fits no word leaves the version to the kernel; any other that does not
fit is zero. -/
example :
    (assemble none (some "4294967296 (7)") (some "19045.1")).map numbers = some (19045, 1, 0) ∧
      (assemble none (some "6.4294967296\t(7)") (some "19045.1")).map numbers = some (6, 0, 7) := by
  decide

end Sources

end Readiness.OsVersion
