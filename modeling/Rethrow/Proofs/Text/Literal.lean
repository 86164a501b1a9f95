import Mathlib.Data.List.Induction
import Rethrow.Text.Escape

/-!
# What a string literal denotes

The text between the quotes of a string literal is read twice. First Unicode escapes become the
code units they stand for; backslashes are taken in pairs, so that one starts such an escape
only if an even number of backslashes stands right in front of it. Then the escapes of string
literals are decoded. Strings are sequences of code units, and so is what a literal denotes.

`isBodyOf_escape` says that the escaped form of any value is such a text: both readings give
the value back, and neither a line break nor a quote in it can end the literal.
-/

namespace Rethrow.Text

/-! ## Code units -/

/-- The code units of a character: one, or a pair of surrogates. -/
def charUnits (c : Char) : List Nat :=
  if c.toNat < 0x10000 then [c.toNat]
  else [0xD800 + (c.toNat - 0x10000) / 0x400, 0xDC00 + (c.toNat - 0x10000) % 0x400]

/-- The code units of a text. -/
def units (t : Text) : List Nat :=
  t.flatMap charUnits

theorem units_append (a b : Text) : units (a ++ b) = units a ++ units b :=
  List.flatMap_append

/-- The code points of characters: none is a surrogate. -/
theorem toNat_cases (c : Char) :
    c.toNat < 0xD800 ∨ 0xDFFF < c.toNat ∧ c.toNat < 0x110000 := by
  have valid := c.valid
  simp only [UInt32.isValidChar, Nat.isValidChar] at valid
  change c.val.toNat < 0xD800 ∨ 0xDFFF < c.val.toNat ∧ c.val.toNat < 0x110000
  omega

/-- The first units of two texts tell their first characters. -/
theorem charUnits_append_inj {c d : Char} {a b : List Nat}
    (same : charUnits c ++ a = charUnits d ++ b) : c = d ∧ a = b := by
  have valid := toNat_cases c
  have valid' := toNat_cases d
  unfold charUnits at same
  split at same <;> split at same <;>
    simp only [List.cons_append, List.nil_append, List.cons.injEq] at same
  · exact ⟨Char.toNat_inj.mp same.1, same.2⟩
  · omega
  · omega
  · refine ⟨Char.toNat_inj.mp ?_, same.2.2⟩
    omega

theorem charUnits_ne_nil (c : Char) : charUnits c ≠ [] := by
  unfold charUnits
  split <;> simp

/-- A text is determined by its units. -/
theorem units_injective : Function.Injective units := by
  intro a b same
  induction a generalizing b with
  | nil =>
      cases b with
      | nil => rfl
      | cons d b => simp [units, charUnits_ne_nil] at same
  | cons c a ih =>
      cases b with
      | nil => simp [units, charUnits_ne_nil] at same
      | cons d b =>
          rw [units, units, List.flatMap_cons, List.flatMap_cons] at same
          obtain ⟨rfl, rest⟩ := charUnits_append_inj same
          rw [ih rest]

/-! ## Readings -/

/-- A machine that reads a list item by item: what it writes for the next item and the state it
is in then, and what it writes at the end. It may refuse what it is given. -/
structure Transducer (σ α β : Type) where
  take : σ → α → Option (List β × σ)
  finish : σ → Option (List β)

namespace Transducer

variable {σ α β : Type} (machine : Transducer σ α β)

/-- What a machine writes for some items. -/
def run : σ → List α → Option (List β)
  | state, [] => machine.finish state
  | state, x :: rest =>
    match machine.take state x with
    | none => none
    | some (out, next) => (run next rest).map (out ++ ·)

/-- Some items that a machine reads from a state back to that state, with what it writes for
them. -/
def Loops (state : σ) (items : List α) (out : List β) : Prop :=
  ∀ rest, machine.run state (items ++ rest) = (machine.run state rest).map (out ++ ·)

variable {machine}

theorem Loops.single {state : σ} {x : α} {out : List β}
    (taken : machine.take state x = some (out, state)) : machine.Loops state [x] out := by
  intro rest
  rw [List.singleton_append, Transducer.run, taken]

theorem Loops.pair {state middle : σ} {x y : α} {out : List β}
    (held : machine.take state x = some ([], middle))
    (taken : machine.take middle y = some (out, state)) : machine.Loops state [x, y] out := by
  intro rest
  rw [List.cons_append, Transducer.run, held]
  dsimp only
  rw [List.singleton_append, Transducer.run, taken]
  simp [Function.comp_def]

theorem Loops.append {state : σ} {a b : List α} {x y : List β} (left : machine.Loops state a x)
    (right : machine.Loops state b y) : machine.Loops state (a ++ b) (x ++ y) := by
  intro rest
  rw [List.append_assoc, left, right, Option.map_map]
  simp [Function.comp_def]

theorem Loops.flatMap {γ : Type} {state : σ} {f : γ → List α} {g : γ → List β} {xs : List γ}
    (each : ∀ x ∈ xs, machine.Loops state (f x) (g x)) :
    machine.Loops state (xs.flatMap f) (xs.flatMap g) := by
  induction xs with
  | nil =>
      intro rest
      simp
  | cons x xs ih =>
      rw [List.forall_mem_cons] at each
      rw [List.flatMap_cons, List.flatMap_cons]
      exact each.1.append (ih each.2)

theorem Loops.run {state : σ} {items : List α} {out : List β}
    (loops : machine.Loops state items out) (finishes : machine.finish state = some []) :
    machine.run state items = some out := by
  have whole := loops []
  rw [List.append_nil] at whole
  rw [whole, Transducer.run, finishes]
  simp

end Transducer

/-- The value of a hexadecimal digit. -/
def hexDigit? (c : Char) : Option Nat :=
  if '0' ≤ c ∧ c ≤ '9' then some (c.toNat - 48)
  else if 'a' ≤ c ∧ c ≤ 'f' then some (c.toNat - 87)
  else if 'A' ≤ c ∧ c ≤ 'F' then some (c.toNat - 55)
  else none

/-- Where the reading of Unicode escapes stands. -/
inductive Unfolding where
  | plain
  /-- Behind a backslash that an even number of backslashes stands in front of. -/
  | slash
  /-- Behind such a backslash and one or more times the letter `u`. -/
  | marked
  /-- Behind some of the four digits, which make the given value. -/
  | digits (read value : Nat)
  deriving DecidableEq, Repr

/-- The next digit of a Unicode escape. -/
def Unfolding.digit (read value : Nat) (c : Char) : Option (List Nat × Unfolding) :=
  (hexDigit? c).map fun digit =>
    if read = 3 then ([16 * value + digit], .plain)
    else ([], .digits (read + 1) (16 * value + digit))

/-- The reading of Unicode escapes. The second backslash of a pair starts none. -/
def unfolding : Transducer Unfolding Char Nat where
  take
    | .plain, c => some (if c = '\\' then ([], .slash) else (charUnits c, .plain))
    | .slash, c =>
      some (if c = 'u' then ([], .marked) else (charUnits '\\' ++ charUnits c, .plain))
    | .marked, c => if c = 'u' then some ([], .marked) else Unfolding.digit 0 0 c
    | .digits read value, c => Unfolding.digit read value c
  finish
    | .plain => some []
    | .slash => some (charUnits '\\')
    | _ => none

/-- The unit that an escape with the given letter stands for: `b`, `t`, `n`, `f`, `r`, `s`, the
quotes and the backslash. -/
def namedUnit? (unit : Nat) : Option Nat :=
  [(98, 8), (116, 9), (110, 10), (102, 12), (114, 13), (115, 32), (34, 34), (39, 39),
    (92, 92)].lookup unit

/-- The value of an octal digit. -/
def octalDigit? (unit : Nat) : Option Nat :=
  if 48 ≤ unit ∧ unit ≤ 55 then some (unit - 48) else none

/-- Where the reading of the escapes of a string literal stands. -/
inductive Decoding where
  | plain
  | slash
  /-- Behind octal digits of the given value, of which `room` more may follow. -/
  | octal (value room : Nat)
  deriving DecidableEq, Repr

/-- A unit outside escapes: a quote or a line break would end the literal. -/
def Decoding.plainUnit (unit : Nat) : Option (List Nat × Decoding) :=
  if unit = 92 then some ([], .slash)
  else if unit = 34 ∨ unit = 10 ∨ unit = 13 then none
  else some ([unit], .plain)

/-- The reading of the escapes of a string literal. -/
def decoding : Transducer Decoding Nat Nat where
  take
    | .plain, unit => Decoding.plainUnit unit
    | .slash, unit =>
      match namedUnit? unit with
      | some named => some ([named], .plain)
      | none =>
        (octalDigit? unit).map fun digit => ([], .octal digit (if digit ≤ 3 then 2 else 1))
    | .octal value room, unit =>
      match octalDigit? unit, room with
      | some digit, room + 1 => some ([], .octal (8 * value + digit) room)
      | _, _ => (Decoding.plainUnit unit).map fun next => (value :: next.1, next.2)
  finish
    | .plain => some []
    | .slash => none
    | .octal value _ => some [value]

/-- The units that a text between the quotes of a string literal denotes, if it is one. -/
def denoted? (body : Text) : Option (List Nat) :=
  (unfolding.run .plain body).bind (decoding.run .plain)

/-- The number of backslashes that a text ends in. -/
def slashes (t : Text) : Nat :=
  (t.reverse.takeWhile (· = '\\')).length

/-- A text that may stand between the quotes of a string literal and denotes a value there: it
has no line break, each quote in it stands behind an odd run of backslashes, and it does not
hide the quote behind it. -/
structure IsBodyOf (body value : Text) : Prop where
  denotes : denoted? body = some (units value)
  noFeed : '\n' ∉ body
  noReturn : '\r' ∉ body
  quotes : ∀ before behind, body = before ++ '"' :: behind → slashes before % 2 = 1
  ends : slashes body % 2 = 0

/-! ## Escaped values -/

/-- The escaped form of a character is the character itself, which is then nothing special in a
literal, or a backslash and the letter that names it. -/
theorem escapeChar_cases (c : Char) :
    (escapeChar c = [c] ∧ c ≠ '"' ∧ c ≠ '\\' ∧ c ≠ '\n' ∧ c ≠ '\r') ∨
      ∃ letter, escapeChar c = ['\\', letter] ∧ letter ≠ 'u' ∧ letter ≠ '\n' ∧ letter ≠ '\r' ∧
        charUnits letter = [letter.toNat] ∧ charUnits c = [c.toNat] ∧
        namedUnit? letter.toNat = some c.toNat := by
  unfold escapeChar
  split
  · exact .inr ⟨'"', by decide⟩
  · exact .inr ⟨'\\', by decide⟩
  · exact .inr ⟨'n', by decide⟩
  · exact .inr ⟨'r', by decide⟩
  · exact .inr ⟨'t', by decide⟩
  · split
    · rename_i backspace
      subst backspace
      exact .inr ⟨'b', by decide⟩
    · split
      · rename_i formFeed
        subst formFeed
        exact .inr ⟨'f', by decide⟩
      · exact .inl ⟨rfl, by assumption, by assumption, by assumption, by assumption⟩

/-- Without a backslash there is no Unicode escape. -/
theorem unfolding_of_not_mem {t : Text} (plain : '\\' ∉ t) :
    unfolding.Loops .plain t (units t) := by
  have each : ∀ c ∈ t, unfolding.Loops .plain [c] (charUnits c) := by
    intro c listed
    have noSlash : c ≠ '\\' := fun same => plain (same ▸ listed)
    exact .single (by simp [unfolding, noSlash])
  have looped := Transducer.Loops.flatMap each
  rwa [List.flatMap_singleton'] at looped

/-- An escaped value holds no Unicode escape. -/
theorem unfolding_escape (value : Text) :
    unfolding.Loops .plain (escape value) (units (escape value)) := by
  have each : ∀ c ∈ value, unfolding.Loops .plain (escapeChar c) (units (escapeChar c)) := by
    intro c _
    rcases escapeChar_cases c with ⟨shape, -, noSlash, -⟩ | ⟨letter, shape, noMark, -⟩
    · rw [shape]
      exact .single (by simp [unfolding, noSlash, units])
    · rw [shape]
      have taken : unfolding.take .slash letter = some (units ['\\', letter], .plain) := by
        change some (if letter = 'u' then _ else _) = _
        rw [if_neg noMark, units, List.flatMap_cons, List.flatMap_singleton]
      exact .pair rfl taken
  rw [units, escape, List.flatMap_assoc]
  exact Transducer.Loops.flatMap each

theorem toNat_of_mem_charUnits {c : Char} {unit : Nat} (listed : unit ∈ charUnits c)
    (low : unit < 0xD800) : c.toNat = unit := by
  unfold charUnits at listed
  split at listed
  · exact (List.mem_singleton.mp listed).symm
  · simp only [List.mem_cons, List.not_mem_nil, or_false] at listed
    omega

/-- Decoding the escapes of an escaped value gives the value back. -/
theorem decoding_escape (value : Text) :
    decoding.Loops .plain (units (escape value)) (units value) := by
  have each : ∀ c ∈ value, decoding.Loops .plain (units (escapeChar c)) (charUnits c) := by
    intro c _
    rcases escapeChar_cases c with
      ⟨shape, noQuote, noSlash, noFeed, noReturn⟩ | ⟨letter, shape, -, -, -, one, single, named⟩
    · have plain : ∀ unit ∈ charUnits c, decoding.Loops .plain [unit] [unit] := by
        intro unit listed
        have other : ∀ d : Char, d.toNat < 0xD800 → c ≠ d → unit ≠ d.toNat := by
          rintro d low apart rfl
          exact apart (Char.toNat_inj.mp (toNat_of_mem_charUnits listed low))
        have noSlash : unit ≠ 92 := other '\\' (by decide) noSlash
        have inside : ¬(unit = 34 ∨ unit = 10 ∨ unit = 13) := by
          rintro (quote | feed | return_)
          · exact other '"' (by decide) noQuote quote
          · exact other '\n' (by decide) noFeed feed
          · exact other '\r' (by decide) noReturn return_
        refine .single ?_
        change Decoding.plainUnit unit = _
        rw [Decoding.plainUnit, if_neg noSlash, if_neg inside]
      have looped := Transducer.Loops.flatMap plain
      rw [List.flatMap_singleton'] at looped
      rw [shape, units, List.flatMap_singleton]
      exact looped
    · rw [shape, single, units, List.flatMap_cons, List.flatMap_singleton, one]
      have taken : decoding.take .slash letter.toNat = some ([c.toNat], .plain) := by
        simp only [decoding, named]
      exact .pair rfl taken
  rw [units, escape, List.flatMap_assoc]
  exact Transducer.Loops.flatMap each

/-! ## Runs of backslashes -/

theorem slashes_concat (t : Text) (c : Char) :
    slashes (t ++ [c]) = if c = '\\' then slashes t + 1 else 0 := by
  unfold slashes
  rw [List.reverse_append, List.reverse_singleton, List.singleton_append, List.takeWhile_cons]
  split <;> simp_all

theorem escape_concat (value : Text) (c : Char) :
    escape (value ++ [c]) = escape value ++ escapeChar c := by
  simp [escape]

/-- An escaped value does not hide what stands behind it. -/
theorem slashes_escape (value : Text) : slashes (escape value) % 2 = 0 := by
  induction value using List.reverseRecOn with
  | nil => rfl
  | append_singleton init c ih =>
      rw [escape_concat]
      rcases escapeChar_cases c with ⟨shape, -, noSlash, -⟩ | ⟨letter, shape, -⟩
      · rw [shape, slashes_concat, if_neg noSlash]
      · rw [shape, List.append_cons, slashes_concat, slashes_concat, if_pos rfl]
        split
        · omega
        · rfl

/-- A quote in an escaped value stands behind the backslash that escapes it. -/
theorem slashes_before_quote {value before behind : Text}
    (shape : escape value = before ++ '"' :: behind) : slashes before % 2 = 1 := by
  induction value using List.reverseRecOn generalizing behind with
  | nil => simp [escape] at shape
  | append_singleton init c ih =>
      have even := slashes_escape init
      rw [escape_concat, List.append_eq_append_iff] at shape
      rcases shape with ⟨inner, rfl, shape⟩ | ⟨inner, left, right⟩
      · -- The quote is the letter of the last escape.
        rcases escapeChar_cases c with ⟨single, noQuote, -⟩ | ⟨letter, pair, -⟩
        · rw [single] at shape
          cases inner <;> simp_all
        · rw [pair] at shape
          match inner, shape with
          | [], shape => simp at shape
          | [slash], shape =>
              obtain ⟨rfl, -⟩ := List.cons.inj shape
              rw [slashes_concat, if_pos rfl]
              omega
          | _ :: _ :: inner, shape => simp at shape
      · cases inner with
        | cons quote inner =>
            obtain ⟨rfl, -⟩ := List.cons.inj right
            exact ih left
        | nil =>
            rw [List.nil_append] at right
            rcases escapeChar_cases c with ⟨single, noQuote, -⟩ | ⟨letter, pair, -⟩
            · rw [single] at right
              exact absurd (List.cons.inj right).1.symm noQuote
            · rw [pair] at right
              exact absurd (List.cons.inj right).1 (by decide)

theorem not_mem_escape {value : Text} {d : Char} (free : ∀ c, d ∉ escapeChar c) :
    d ∉ escape value := by
  intro found
  obtain ⟨c, -, inside⟩ := List.mem_flatMap.mp found
  exact free c inside

/-- The escaped form of a value may stand between the quotes of a string literal and denotes the
value there. -/
theorem isBodyOf_escape (value : Text) : IsBodyOf (escape value) value where
  denotes := by
    rw [denoted?, (unfolding_escape value).run rfl, Option.bind_some,
      (decoding_escape value).run rfl]
  noFeed := not_mem_escape fun c => by
    rcases escapeChar_cases c with ⟨shape, -, -, noFeed, -⟩ | ⟨letter, shape, -, noFeed, -⟩
    · simp [shape, Ne.symm noFeed]
    · simp [shape, Ne.symm noFeed]
  noReturn := not_mem_escape fun c => by
    rcases escapeChar_cases c with ⟨shape, -, -, -, noReturn⟩ | ⟨letter, shape, -, -, noReturn, -⟩
    · simp [shape, Ne.symm noReturn]
    · simp [shape, Ne.symm noReturn]
  quotes _ _ shape := slashes_before_quote shape
  ends := slashes_escape value

end Rethrow.Text
