import Mathlib.Data.Finset.Sort
import Mathlib.Data.Int.ConditionallyCompleteOrder
import Volley.Proofs.Config.Valid
import Volley.Proofs.Text.Numeral

/-!
# Lists of statuses

A written list of statuses is cut at its commas. Every piece is blank, or a status with blanks
around it, or it is refused, as no integer or as out of range. The reader takes the pieces from left
to right and refuses the list for the first that it refuses; what comes after does not matter. If
all pieces are fine and they are not all blank, the statuses make the set.

## Main definitions

- `StatusSet.Cut`: a text and its pieces.
- `StatusSet.Reads`: what a piece is taken for.
- `StatusSet.Parses`: what a list is taken for.
- `StatusSet.Lists`: a list of the members of a set.

## Main results

- `readPiece_eq_iff`: a piece is read by its grammar.
- `parse_eq_iff`: a list is parsed by its grammar.
- `parse_grammar`: which texts are accepted, and that every list of a set is parsed as that set.
-/

namespace Volley.StatusSet

open Text Numeral

/-! ### Pieces -/

/-- A text and its pieces between commas. -/
structure Cut (cs : List Char) (parts : List (List Char)) : Prop where
  some_ : parts ≠ []
  plain : ∀ piece ∈ parts, ',' ∉ piece
  joined : [','].intercalate parts = cs

theorem pieces_eq_splitOn (separator : Char) (cs : List Char) :
    pieces separator cs = cs.splitOn separator := by
  induction cs with
  | nil => rfl
  | cons c rest ih =>
    rw [List.splitOn_cons_eq_if_modifyHead, pieces, ih]
    by_cases here : c = separator
    · simp [here]
    · -- A character that is no comma goes to the first piece, and there always is a first.
      cases cut : rest.splitOn separator with
      | nil => exact absurd cut (List.splitOn_ne_nil separator rest)
      | cons first others => simp [here]

theorem separator_notMem_splitOn (separator : Char) (cs : List Char) :
    ∀ piece ∈ cs.splitOn separator, separator ∉ piece := by
  induction cs with
  | nil => simp
  | cons c rest ih =>
    rw [List.splitOn_cons_eq_if_modifyHead]
    split
    · simpa using ih
    next other =>
      cases cut : rest.splitOn separator with
      | nil => exact absurd cut (List.splitOn_ne_nil separator rest)
      | cons first others =>
        rw [cut] at ih
        have ne : separator ≠ c := fun same => other (by simp [same])
        simpa [ne] using ih

/-- Every text can be cut. -/
theorem cut_splitOn (cs : List Char) : Cut cs (cs.splitOn ',') where
  some_ := List.splitOn_ne_nil ',' cs
  plain := separator_notMem_splitOn ',' cs
  joined := List.intercalate_splitOn ','

theorem Cut.pieces_eq {cs : List Char} {parts : List (List Char)} (cut : Cut cs parts) :
    pieces ',' cs = parts := by
  rw [pieces_eq_splitOn, ← cut.joined, List.splitOn_intercalate ',' cut.plain cut.some_]

/-- What a piece of a list is taken for: nothing, a status, or an error. -/
inductive Reads (piece : List Char) : Except ConfigError (Option Int) → Prop
  | blank (blank : ∀ c ∈ piece, isBlank c = true) : Reads piece (.ok none)
  | status {core : List Char} {code : Int} (trims : Trims isBlank piece core)
      (integer : IsInteger core code) (status : IsStatus code) : Reads piece (.ok (some code))
  | notInteger {core : List Char} (trims : Trims isBlank piece core) (some_ : core ≠ [])
      (other : ∀ n, ¬ IsInteger core n) :
      Reads piece (.error (.statusNotInteger (String.ofList core)))
  | outOfRange {core : List Char} {n : Int} (trims : Trims isBlank piece core)
      (integer : IsInteger core n) (outside : ¬ IsStatus n) :
      Reads piece (.error (.statusOutOfRange n))

section Pieces

variable {piece core : List Char} {r : Except ConfigError (Option Int)}

theorem trims_nil_iff : Trims isBlank piece [] ↔ ∀ c ∈ piece, isBlank c = true := by
  constructor
  · rintro ⟨-, left, right, rfl, front, back⟩ c member
    rw [List.append_nil] at member
    exact (List.mem_append.mp member).elim (front c) (back c)
  · intro blank
    exact ⟨⟨nofun, nofun⟩, piece, [], by simp, blank, nofun⟩

/-- What has no blank at its ends has none that a numeral could lose. -/
theorem trims_numeral (bare : Bare isBlank core) :
    Trims isNumeralBlank (String.ofList core).toList core := by
  have other {c : Char} (plain : isBlank c = false) : isNumeralBlank c = false := by
    simp [isNumeralBlank, plain]
  refine ⟨⟨fun c first => other (bare.first c first), fun c last => other (bare.last c last)⟩, [],
    [], by simp, List.forall_mem_nil _, List.forall_mem_nil _⟩

theorem integer?_trimmed (trims : Trims isBlank piece core) (n : Int) :
    integer? (String.ofList core) = some n ↔ IsInteger core n :=
  integer?_eq_some_iff (trims_numeral trims.1)

theorem readPiece_eq (trims : Trims isBlank piece core) :
    readPiece piece = if core = [] then .ok none
      else match integer? (String.ofList core) with
        | none => .error (.statusNotInteger (String.ofList core))
        | some code =>
          if 100 ≤ code ∧ code ≤ 599 then .ok (some code) else .error (.statusOutOfRange code) := by
  have text : Text.trim (String.ofList piece) = String.ofList core := by
    rw [Text.trim, String.toList_ofList, trimWith_of_trims trims]
  unfold readPiece
  dsimp only
  rw [text]
  by_cases nothing : core = []
  · have empty : String.ofList core = "" := String.ofList_eq_empty_iff.mpr nothing
    exact (if_pos empty).trans (if_pos nothing).symm
  · have some_ : String.ofList core ≠ "" :=
      fun empty => nothing (String.ofList_eq_empty_iff.mp empty)
    exact (if_neg some_).trans (if_neg nothing).symm

theorem reads_readPiece (piece : List Char) : Reads piece (readPiece piece) := by
  have trims := trims_trimWith isBlank piece
  rw [readPiece_eq trims]
  generalize trimWith isBlank piece = core at trims
  -- Trimming leaves a core, and the piece is judged by it alone.
  split
  next nothing => exact .blank (trims_nil_iff.mp (nothing ▸ trims))
  next some_ =>
    -- The reader of integers trims once more, which takes nothing off.
    have reads := integer?_trimmed trims
    split
    next none_ =>
      refine .notInteger trims some_ fun n integer => ?_
      rw [← reads, none_] at integer
      cases integer
    next code found =>
      have integer := (reads code).mp found
      split
      next inside => exact .status trims integer inside
      next outside => exact .outOfRange trims integer outside

/-- A piece is read by its grammar. -/
theorem readPiece_eq_iff : readPiece piece = r ↔ Reads piece r := by
  constructor
  · rintro rfl
    exact reads_readPiece piece
  · intro reads
    cases reads with
    | blank blank => rw [readPiece_eq (trims_nil_iff.mpr blank), if_pos rfl]
    | status trims integer status =>
      rw [readPiece_eq trims, if_neg integer.ne_nil, (integer?_trimmed trims _).mpr integer]
      exact if_pos status
    | @notInteger core trims some_ other =>
      have none_ : integer? (String.ofList core) = none :=
        Option.eq_none_iff_forall_ne_some.mpr fun n found =>
          other n ((integer?_trimmed trims n).mp found)
      rw [readPiece_eq trims, if_neg some_, none_]
    | outOfRange trims integer outside =>
      rw [readPiece_eq trims, if_neg integer.ne_nil, (integer?_trimmed trims _).mpr integer]
      exact if_neg outside

end Pieces

/-! ### Sets -/

theorem ascending_insert {set : StatusSet} (ascending : set.Pairwise (· < ·)) (code : Int) :
    (insert code set).Pairwise (· < ·) := by
  induction set with
  | nil => exact List.pairwise_singleton _ _
  | cons first rest ih =>
    obtain ⟨below, later⟩ := List.pairwise_cons.mp ascending
    unfold insert
    split
    next less =>
      refine List.pairwise_cons.mpr ⟨?_, ascending⟩
      rintro c (_ | ⟨_, member⟩)
      · exact less
      · exact less.trans (below c member)
    next notLess =>
      split
      · exact ascending
      next other =>
        -- The new code is larger, so it goes further right and the first code stays below it.
        refine List.pairwise_cons.mpr ⟨fun c member => ?_, ih later⟩
        rcases (mem_insert code c rest).mp member with rfl | old
        · omega
        · exact below c old

theorem ascending_ofList (codes : List Int) : (ofList codes).Pairwise (· < ·) := by
  apply List.foldlRecOn (motive := fun set : StatusSet => set.Pairwise (· < ·)) codes
  · exact .nil
  · intro set ascending code _
    exact ascending_insert ascending code

theorem mem_ofList {codes : List Int} {code : Int} : code ∈ ofList codes ↔ code ∈ codes := by
  simpa [contains] using contains_ofList codes code

/-- A set is determined by its members. -/
theorem eq_of_members {set set' : StatusSet} (ascending : set.Pairwise (· < ·))
    (ascending' : set'.Pairwise (· < ·)) (same : ∀ code, code ∈ set ↔ code ∈ set') :
    set = set' :=
  List.Perm.eq_of_pairwise (fun _ _ _ _ less more => absurd (less.trans more) (lt_irrefl _))
    ascending ascending'
    ((List.perm_ext_iff_of_nodup (ascending.imp ne_of_lt) (ascending'.imp ne_of_lt)).mpr same)

/-! ### Lists -/

/-- What a list is taken for: a set, or an error. -/
inductive Parses (text : String) (parts : List (List Char)) :
    Except ConfigError StatusSet → Prop
  | set {set : StatusSet} (fine : ∀ piece ∈ parts, ∃ code?, Reads piece (.ok code?))
      (some_ : set ≠ []) (ascending : set.Pairwise (· < ·))
      (members : ∀ code, code ∈ set ↔ ∃ piece ∈ parts, Reads piece (.ok (some code))) :
      Parses text parts (.ok set)
  /-- The first piece that is refused settles it. -/
  | refused {before after : List (List Char)} {piece : List Char} {e : ConfigError}
      (first : parts = before ++ piece :: after)
      (fine : ∀ piece ∈ before, ∃ code?, Reads piece (.ok code?))
      (refused : Reads piece (.error e)) : Parses text parts (.error e)
  | blank (blank : ∀ piece ∈ parts, Reads piece (.ok none)) :
      Parses text parts (.error (.statusListEmpty text))

section Lists

variable {text : String} {parts before after : List (List Char)} {piece : List Char}

theorem readPieces_fine (fine : ∀ piece ∈ parts, ∃ code?, Reads piece (.ok code?)) :
    ∃ codes, readPieces parts = .ok codes ∧
      ∀ code, code ∈ codes ↔ ∃ piece ∈ parts, Reads piece (.ok (some code)) := by
  induction parts with
  | nil => exact ⟨[], rfl, by simp⟩
  | cons piece rest ih =>
    obtain ⟨codes, read, members⟩ := ih fun piece member => fine piece (.tail _ member)
    obtain ⟨code?, reads⟩ := fine piece (.head _)
    have first := readPiece_eq_iff.mpr reads
    refine ⟨code?.toList ++ codes, by rw [readPieces, first, read], fun code => ?_⟩
    have here : Reads piece (.ok (some code)) ↔ code? = some code := by
      rw [← readPiece_eq_iff, first]
      simp
    simp [here, members]

theorem readPieces_refused (fine : ∀ piece ∈ before, ∃ code?, Reads piece (.ok code?))
    {e : ConfigError} (refused : Reads piece (.error e)) (after : List (List Char)) :
    readPieces (before ++ piece :: after) = .error e := by
  induction before with
  | nil => rw [List.nil_append, readPieces, readPiece_eq_iff.mpr refused]
  | cons first rest ih =>
    obtain ⟨code?, reads⟩ := fine first (.head _)
    rw [List.cons_append, readPieces, readPiece_eq_iff.mpr reads,
      ih fun piece member => fine piece (.tail _ member)]

/-- Either all pieces are fine, or there is a first that is refused. -/
theorem fine_or_refused (parts : List (List Char)) :
    (∀ piece ∈ parts, ∃ code?, Reads piece (.ok code?)) ∨
    ∃ before piece after e, parts = before ++ piece :: after ∧
      (∀ piece ∈ before, ∃ code?, Reads piece (.ok code?)) ∧ Reads piece (.error e) := by
  induction parts with
  | nil => exact .inl nofun
  | cons piece rest ih =>
    cases read : readPiece piece with
    | error e => exact .inr ⟨[], piece, rest, e, rfl, nofun, readPiece_eq_iff.mp read⟩
    | ok code? =>
      have reads := readPiece_eq_iff.mp read
      -- A refused piece further on is the first only as the one here is fine.
      rcases ih with fine | ⟨before, piece', after, e, rfl, fine, refused⟩
      · left
        rintro piece (_ | ⟨_, member⟩)
        · exact ⟨code?, reads⟩
        · exact fine piece member
      · refine .inr ⟨piece :: before, piece', after, e, rfl, ?_, refused⟩
        rintro piece (_ | ⟨_, member⟩)
        · exact ⟨code?, reads⟩
        · exact fine piece member

theorem parse_fine (cut : Cut text.toList parts)
    (fine : ∀ piece ∈ parts, ∃ code?, Reads piece (.ok code?)) :
    ∃ codes, parse text = (if codes = [] then .error (.statusListEmpty text)
        else .ok (ofList codes)) ∧
      ∀ code, code ∈ codes ↔ ∃ piece ∈ parts, Reads piece (.ok (some code)) := by
  obtain ⟨codes, read, members⟩ := readPieces_fine fine
  refine ⟨codes, ?_, members⟩
  unfold parse
  rw [cut.pieces_eq, read]
  cases codes <;> rfl

theorem parse_refused (cut : Cut text.toList (before ++ piece :: after))
    (fine : ∀ piece ∈ before, ∃ code?, Reads piece (.ok code?)) {e : ConfigError}
    (refused : Reads piece (.error e)) : parse text = .error e := by
  unfold parse
  rw [cut.pieces_eq, readPieces_refused fine refused]

theorem parses_parse (cut : Cut text.toList parts) : Parses text parts (parse text) := by
  rcases fine_or_refused parts with fine | ⟨before, piece, after, e, rfl, fine, refused⟩
  · obtain ⟨codes, parsed, members⟩ := parse_fine cut fine
    rw [parsed]
    split
    next nothing =>
      refine .blank fun piece member => ?_
      obtain ⟨code?, reads⟩ := fine piece member
      cases code? with
      -- All pieces fine and no code read: none of them has a status.
      | none => exact reads
      | some code =>
        have found := (members code).mpr ⟨piece, member, reads⟩
        rw [nothing] at found
        cases found
    next some_ =>
      refine .set fine ?_ (ascending_ofList codes) fun code => mem_ofList.trans (members code)
      obtain ⟨code, member⟩ := List.exists_mem_of_ne_nil codes some_
      exact List.ne_nil_of_mem (mem_ofList.mpr member)
  · rw [parse_refused cut fine refused]
    exact .refused rfl fine refused

/-- A list is parsed by its grammar. -/
theorem parse_eq_iff (cut : Cut text.toList parts) {r : Except ConfigError StatusSet} :
    parse text = r ↔ Parses text parts r := by
  constructor
  · rintro rfl
    exact parses_parse cut
  · intro parses
    cases parses with
    | @set set fine some_ ascending members =>
      obtain ⟨codes, parsed, members'⟩ := parse_fine cut fine
      -- Both sets ascend and have the statuses of the pieces as members.
      have same (code : Int) : code ∈ ofList codes ↔ code ∈ set :=
        mem_ofList.trans ((members' code).trans (members code).symm)
      have codes_ : codes ≠ [] := by
        rintro rfl
        obtain ⟨code, member⟩ := List.exists_mem_of_ne_nil set some_
        cases (same code).mpr member
      rw [parsed, if_neg codes_, eq_of_members (ascending_ofList codes) ascending same]
    | refused first fine refused => exact parse_refused (first ▸ cut) fine refused
    | blank blank =>
      obtain ⟨codes, parsed, members⟩ :=
        parse_fine cut fun piece member => ⟨none, blank piece member⟩
      -- A status would come from a piece that is not blank.
      have nothing : codes = [] := by
        refine List.eq_nil_iff_forall_not_mem.mpr fun code member => ?_
        obtain ⟨piece, member, reads⟩ := (members code).mp member
        have read := readPiece_eq_iff.mpr reads
        rw [readPiece_eq_iff.mpr (blank piece member)] at read
        cases read
      rw [parsed, if_pos nothing]

theorem exists_set_iff (cut : Cut text.toList parts) : (∃ set, parse text = .ok set) ↔
    (∀ piece ∈ parts, ∃ code?, Reads piece (.ok code?)) ∧
      ∃ piece ∈ parts, ∃ code, Reads piece (.ok (some code)) := by
  constructor
  · rintro ⟨set, parsed⟩
    have parses := (parse_eq_iff cut).mp parsed
    cases parses with
    | set fine some_ ascending members =>
      obtain ⟨code, member⟩ := List.exists_mem_of_ne_nil set some_
      obtain ⟨piece, found, reads⟩ := (members code).mp member
      exact ⟨fine, piece, found, code, reads⟩
  · rintro ⟨fine, piece, found, code, reads⟩
    obtain ⟨codes, parsed, members⟩ := parse_fine cut fine
    have some_ : codes ≠ [] := List.ne_nil_of_mem ((members code).mpr ⟨piece, found, reads⟩)
    exact ⟨ofList codes, by rw [parsed, if_neg some_]⟩

/-- A piece that shows a number: an integer with blanks around it. -/
def Shows (piece : List Char) (code : Int) : Prop :=
  ∃ left core right, piece = left ++ core ++ right ∧ (∀ c ∈ left, isBlank c = true) ∧
    (∀ c ∈ right, isBlank c = true) ∧ IsInteger core code

/-- A list of the members of a set: in any order, each as often as one likes, with blanks and blank
pieces anywhere. -/
structure Lists (S : Finset Int) (parts : List (List Char)) : Prop where
  only : ∀ piece ∈ parts, (∀ c ∈ piece, isBlank c = true) ∨ ∃ code ∈ S, Shows piece code
  all : ∀ code ∈ S, ∃ piece ∈ parts, Shows piece code

theorem reads_of_shows {code : Int} (shows_ : Shows piece code) (status : IsStatus code) :
    Reads piece (.ok (some code)) := by
  obtain ⟨left, core, right, rfl, front, back, integer⟩ := shows_
  exact .status ⟨integer.bare, left, right, rfl, front, back⟩ integer status

theorem comma_notMem_integer {core : List Char} {n : Int} (integer : IsInteger core n) :
    ',' ∉ core := by
  -- A comma is neither a digit nor an underscore, and no sign either.
  have digits {cs : List Char} {ds : List Nat} (digits : Digits cs ds) : ',' ∉ cs := by
    have noDigit : digitValue? ',' = none := by decide
    have other {c : Char} {d : Nat} (value : digitValue? c = some d) : ',' ≠ c := by
      rintro rfl
      cases noDigit.symm.trans value
    induction digits with
    | one value => simpa using other value
    | next value rest ih => simpa [ih] using other value
    | grouped value rest ih => simpa [ih] using other value
  cases integer with
  | unsigned run short => exact digits run
  | plus run short => simpa using digits run
  | minus run short => simpa using digits run

theorem cut_of_lists {S : Finset Int} (some_ : S.Nonempty) (lists : Lists S parts) :
    Cut ([','].intercalate parts) parts where
  some_ := by
    rintro rfl
    obtain ⟨code, member⟩ := some_
    obtain ⟨piece, nowhere, -⟩ := lists.all code member
    cases nowhere
  plain := by
    -- A comma in a piece would be a blank or part of an integer.
    have comma : isBlank ',' = false := by decide
    have unblank {cs : List Char} (blank : ∀ c ∈ cs, isBlank c = true) : ',' ∉ cs := by
      intro member
      rw [blank ',' member] at comma
      cases comma
    intro piece member
    rcases lists.only piece member with
      blank | ⟨code, -, left, core, right, rfl, front, back, integer⟩
    · exact unblank blank
    · simp [unblank front, unblank back, comma_notMem_integer integer]
  joined := rfl

theorem parse_of_lists {S : Finset Int} (some_ : S.Nonempty) (statuses : ∀ code ∈ S, IsStatus code)
    (lists : Lists S parts) :
    parse (String.ofList ([','].intercalate parts)) = .ok (S.sort (· ≤ ·)) := by
  have cut : Cut (String.ofList ([','].intercalate parts)).toList parts := by
    rw [String.toList_ofList]
    exact cut_of_lists some_ lists
  -- A piece that shows a member of the set is read as that member only.
  have reads {piece : List Char} {code : Int} (member : code ∈ S) (shows_ : Shows piece code) :
      readPiece piece = .ok (some code) :=
    readPiece_eq_iff.mpr (reads_of_shows shows_ (statuses code member))
  refine (parse_eq_iff cut).mpr (.set ?_ ?_ (Finset.sortedLT_sort S).pairwise fun code => ?_)
  · intro piece member
    rcases lists.only piece member with blank | ⟨code, inside, shows_⟩
    · exact ⟨none, .blank blank⟩
    · exact ⟨some code, readPiece_eq_iff.mp (reads inside shows_)⟩
  · obtain ⟨code, member⟩ := some_
    exact List.ne_nil_of_mem ((Finset.mem_sort _).mpr member)
  · rw [Finset.mem_sort]
    constructor
    · intro member
      obtain ⟨piece, found, shows_⟩ := lists.all code member
      exact ⟨piece, found, readPiece_eq_iff.mp (reads member shows_)⟩
    · rintro ⟨piece, found, readsCode⟩
      have read := readPiece_eq_iff.mpr readsCode
      rcases lists.only piece found with blank | ⟨code', inside, shows_⟩
      · rw [readPiece_eq_iff.mpr (.blank blank)] at read
        cases read
      · rw [reads inside shows_] at read
        cases read
        exact inside

/-- A written list of statuses can be cut at its commas, and is parsed by its grammar: it gives a
set if every piece is blank or a status and there is one, and else the error of the first piece that
is refused, or of the whole list. Every list of a set of statuses is parsed as that set, whatever
its order, its repetitions, its blanks and the way its numbers are written, of which the usual one
is one. -/
theorem parse_grammar :
    (∀ text : String, ∃ parts, Cut text.toList parts) ∧
    (∀ (text : String) (parts : List (List Char)), Cut text.toList parts →
      (∀ r, parse text = r ↔ Parses text parts r) ∧
      ((∃ set, parse text = .ok set) ↔
        (∀ piece ∈ parts, ∃ code?, Reads piece (.ok code?)) ∧
          ∃ piece ∈ parts, ∃ code, Reads piece (.ok (some code)))) ∧
    (∀ (S : Finset Int) (parts : List (List Char)), S.Nonempty → (∀ code ∈ S, IsStatus code) →
      Lists S parts → parse (String.ofList ([','].intercalate parts)) = .ok (S.sort (· ≤ ·))) ∧
    ∀ code, IsStatus code → IsInteger (Decimal.integer code).toList code := by
  refine ⟨fun text => ⟨_, cut_splitOn text.toList⟩, fun text parts cut =>
    ⟨fun r => parse_eq_iff cut, exists_set_iff cut⟩,
    fun S parts some_ statuses lists => parse_of_lists some_ statuses lists, ?_⟩
  -- A status has three digits, so it is no numeral that is too long to be read.
  intro code status
  obtain ⟨low, high⟩ := status
  have short : Decimal.digitCount code.natAbs ≤ 3 :=
    (Nat.length_toDigits_le_iff (by decide) (by decide)).mpr (by omega)
  exact isInteger_integer (decide_eq_true (short.trans (by decide)))

end Lists

/-! ### A list of two statuses -/

namespace Sample

/-- One status has its digits in groups, the other a sign and blanks around it. Two pieces are
blank. -/
def parts : List (List Char) := ["2_00".toList, "\t+503 ".toList, [], []]

def mistaken : String := "200,x,999"

theorem isInteger_grouped : IsInteger "2_00".toList 200 :=
  .unsigned (.grouped (d := 2) (by decide) (.next (d := 0) (by decide) (.one (d := 0) (by decide))))
    (by decide)

theorem isInteger_signed : IsInteger "+503".toList 503 :=
  .plus (.next (d := 5) (by decide) (.next (d := 0) (by decide) (.one (d := 3) (by decide))))
    (by decide)

theorem lists_parts : Lists {200, 503} parts := by
  have tab : ∀ c ∈ ['\t'], isBlank c = true := List.forall_mem_singleton.mpr (by decide)
  have space : ∀ c ∈ [' '], isBlank c = true := List.forall_mem_singleton.mpr (by decide)
  have first : Shows "2_00".toList 200 := ⟨[], _, [], by decide, nofun, nofun, isInteger_grouped⟩
  have second : Shows "\t+503 ".toList 503 :=
    ⟨['\t'], _, [' '], by decide, tab, space, isInteger_signed⟩
  refine ⟨?_, ?_⟩
  · simp only [parts, List.mem_cons, List.not_mem_nil, or_false]
    rintro piece (rfl | rfl | rfl | rfl)
    · exact .inr ⟨200, by decide, first⟩
    · exact .inr ⟨503, by decide, second⟩
    all_goals exact .inl nofun
  · intro code member
    simp only [Finset.mem_insert, Finset.mem_singleton] at member
    rcases member with rfl | rfl
    · exact ⟨_, .head _, first⟩
    · exact ⟨_, .tail _ (.head _), second⟩

/-- The first list is one of a set and parsed as that; in the second the code that is out of range
comes too late to matter. -/
theorem parse_grammar_sample :
    (∀ code ∈ ({200, 503} : Finset Int), IsStatus code) ∧ Lists {200, 503} parts ∧
    parse (String.ofList ([','].intercalate parts)) = .ok (({200, 503} : Finset Int).sort (· ≤ ·)) ∧
    ∃ pieces, Cut mistaken.toList pieces ∧
      Parses mistaken pieces (.error (.statusNotInteger "x")) := by
  obtain ⟨exists_cut, parses, lists, -⟩ := parse_grammar
  have statuses : ∀ code ∈ ({200, 503} : Finset Int), IsStatus code := by simp [IsStatus]
  have parsed := lists {200, 503} parts (by decide) statuses lists_parts
  obtain ⟨pieces, cut⟩ := exists_cut mistaken
  exact ⟨statuses, lists_parts, parsed, pieces, cut, ((parses mistaken pieces cut).1 _).mp rfl⟩

end Sample

end Volley.StatusSet
