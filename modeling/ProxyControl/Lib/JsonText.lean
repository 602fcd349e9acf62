import ProxyControl.Lib.Decimal
import ProxyControl.Lib.Json

/-!
# Compact JSON text

The text of a value without white space: objects and arrays with commas between
their parts, strings with the escapes that they need, integers in decimal.  The
text of a double is a parameter; `DoubleText` says what is known of it.

A text shows which value it is the text of, also with something behind it that
does not go on with a number (`text_selfDelimiting`).
-/

namespace Json

open Codes

/-! ## Strings -/

def quotationMark : Char :=
  Char.ofNat 34

def reverseSolidus : Char :=
  Char.ofNat 92

/-- A character in a string; a control character has a short escape or a long one. -/
def escapeChar (c : Char) : List Char :=
  if c = quotationMark then [reverseSolidus, quotationMark]
  else if c = reverseSolidus then [reverseSolidus, reverseSolidus]
  else if 32 ≤ c.toNat then [c]
  else
    match c.toNat with
    | 8 => [reverseSolidus, 'b']
    | 9 => [reverseSolidus, 't']
    | 10 => [reverseSolidus, 'n']
    | 12 => [reverseSolidus, 'f']
    | 13 => [reverseSolidus, 'r']
    | n => [reverseSolidus, 'u', '0', '0', Nat.digitChar (n / 16),
        Nat.digitChar (n % 16)]

/-- The text of a string. -/
def quoted (s : String) : List Char :=
  quotationMark :: terminated escapeChar quotationMark s.toList

/-- The characters that have an escape. -/
def escaped : List Char :=
  quotationMark :: reverseSolidus :: (List.range 32).map Char.ofNat

theorem escapeChar_of_not_mem
    {c : Char} (h : c ∉ escaped) :
    escapeChar c = [c] ∧ c ≠ reverseSolidus ∧ c ≠ quotationMark := by
  have hplain : c ≠ quotationMark ∧ c ≠ reverseSolidus ∧ 32 ≤ c.toNat := by
    simp only [escaped, List.mem_cons, List.mem_map, List.mem_range, not_or,
      not_exists, not_and] at h
    refine ⟨h.1, h.2.1, ?_⟩
    by_contra hlt
    exact h.2.2 c.toNat (by omega) (Char.ofNat_toNat c)
  obtain ⟨hquotation, hsolidus, hprintable⟩ := hplain
  refine ⟨?_, hsolidus, hquotation⟩
  rw [escapeChar, if_neg hquotation, if_neg hsolidus, if_pos hprintable]

theorem escapeChar_of_mem
    {c : Char} (h : c ∈ escaped) :
    (escapeChar c).head? = some reverseSolidus ∧ 2 ≤ (escapeChar c).length := by
  -- one check of the list: a `∀ c ∈ escaped` would be decided over all characters
  have hall : escaped.all (fun c =>
      (escapeChar c).head? = some reverseSolidus ∧
        2 ≤ (escapeChar c).length) = true := by
    decide +kernel
  exact of_decide_eq_true (List.all_eq_true.mp hall c h)

/-- No escape is the beginning of another. -/
theorem escapeChar_prefix_of_mem
    {c d : Char} (hc : c ∈ escaped) (hd : d ∈ escaped)
    (h : escapeChar c <+: escapeChar d) :
    c = d := by
  have hall : escaped.all (fun c => escaped.all fun d =>
      (escapeChar c).isPrefixOf (escapeChar d) = true → c = d) = true := by
    decide +kernel
  have hrow := List.all_eq_true.mp hall c hc
  exact of_decide_eq_true (List.all_eq_true.mp hrow d hd)
    (List.isPrefixOf_iff_prefix.mpr h)

theorem escapeChar_prefixFree
    {c d : Char} (h : escapeChar c <+: escapeChar d) :
    c = d := by
  by_cases hc : c ∈ escaped
  · by_cases hd : d ∈ escaped
    · exact escapeChar_prefix_of_mem hc hd h
    · -- an escape is longer than a single character
      have hlength := h.length_le
      rw [(escapeChar_of_not_mem hd).1] at hlength
      have hlong := (escapeChar_of_mem hc).2
      simp only [List.length_singleton] at hlength
      omega
  · obtain ⟨hplain, hsolidus, -⟩ := escapeChar_of_not_mem hc
    have hhead : (escapeChar d).head? = some c := by
      obtain ⟨rest, heq⟩ := h
      rw [← heq, hplain]
      rfl
    by_cases hd : d ∈ escaped
    · rw [(escapeChar_of_mem hd).1] at hhead
      exact absurd (Option.some.inj hhead).symm hsolidus
    · rw [(escapeChar_of_not_mem hd).1] at hhead
      exact (Option.some.inj hhead).symm

theorem escapeChar_head
    (c : Char) :
    ∃ first rest, escapeChar c = first :: rest ∧ first ≠ quotationMark := by
  by_cases hc : c ∈ escaped
  · obtain ⟨hhead, -⟩ := escapeChar_of_mem hc
    obtain ⟨rest, hrest⟩ := List.head?_eq_some_iff.mp hhead
    exact ⟨reverseSolidus, rest, hrest, by decide⟩
  · obtain ⟨hplain, -, hquotation⟩ := escapeChar_of_not_mem hc
    exact ⟨c, [], hplain, hquotation⟩

/-- A string ends with the first quotation mark that is not escaped. -/
theorem quoted_selfDelimiting :
    SelfDelimiting (fun _ => True) (fun _ => True) quoted := by
  have hescape : SelfDelimiting (fun _ : Char => True) (fun _ => True)
      escapeChar :=
    of_prefixFree fun c d _ _ h => escapeChar_prefixFree h
  intro s _ s' rest rest' _ _ _ heq
  obtain ⟨hchars, hrest⟩ := delimits_terminated
    (fun c _ => hescape c trivial) (fun _ _ => trivial)
    (fun c _ => escapeChar_head c) s'.toList rest rest' (fun _ _ => trivial)
    trivial trivial (List.cons.inj heq).2
  exact ⟨String.toList_inj.mp hchars, hrest⟩

/-! ## Numbers -/

/-- The characters of numbers. -/
def isNumberChar (c : Char) : Bool :=
  c.isDigit || c = '-' || c = '+' || c = '.' || c = 'e' || c = 'E'

/-- No character of a number comes next. -/
def NumberEnds (rest : List Char) : Prop :=
  ∀ c ∈ rest.head?, ¬ isNumberChar c = true

/-- The bits of a double that is a number. -/
def FiniteDouble (bits : UInt64) : Prop :=
  bits.toNat / 2 ^ 52 % 2 ^ 11 ≠ 2 ^ 11 - 1

/-- A number has one representation: integers are negative or not, doubles finite. -/
def Number.Valid : Number → Prop
  | .posInt _ => True
  | .negInt n => n.toInt < 0
  | .float bits => FiniteDouble bits

/--
A text of the doubles from which they can be read back, and which is not that of
an integer.
-/
structure DoubleText (doubleText : UInt64 → List Char) : Prop where
  chars : ∀ bits, FiniteDouble bits → ∀ c ∈ doubleText bits,
    isNumberChar c = true
  mark : ∀ bits, FiniteDouble bits →
    ∃ c ∈ doubleText bits, c = '.' ∨ c = 'e'
  injective : ∀ bits bits', FiniteDouble bits → FiniteDouble bits' →
    doubleText bits = doubleText bits' → bits = bits'

/-- An integer, negative ones with a sign. -/
def integerText (n : Int) : List Char :=
  if n < 0 then '-' :: Nat.toDigits 10 n.natAbs else Nat.toDigits 10 n.natAbs

def numberText (doubleText : UInt64 → List Char) : Number → List Char
  | .posInt n => integerText n.toNat
  | .negInt n => integerText n.toInt
  | .float bits => doubleText bits

theorem mem_integerText
    {n : Int} {c : Char} (h : c ∈ integerText n) :
    c = '-' ∨ c.isDigit = true := by
  unfold integerText at h
  split_ifs at h
  · rcases List.mem_cons.mp h with rfl | hdigit
    · exact .inl rfl
    · exact .inr (Decimal.isDigit_of_mem_toDigits hdigit)
  · exact .inr (Decimal.isDigit_of_mem_toDigits h)

theorem integerText_injective : Function.Injective integerText := by
  intro n m h
  have hsign : ∀ k : ℕ, '-' ∉ Nat.toDigits 10 k := by
    intro k hk
    exact absurd (Decimal.isDigit_of_mem_toDigits hk) (by decide)
  unfold integerText at h
  split_ifs at h
  · have habs := Decimal.toDigits_injective (List.cons.inj h).2
    omega
  · exact absurd (h ▸ List.mem_cons_self) (hsign m.natAbs)
  · exact absurd (h ▸ List.mem_cons_self) (hsign n.natAbs)
  · have habs := Decimal.toDigits_injective h
    omega

variable {doubleText : UInt64 → List Char}

theorem DoubleText.ne_integerText
    (h : DoubleText doubleText) {bits : UInt64} (hbits : FiniteDouble bits)
    (n : Int) :
    doubleText bits ≠ integerText n := by
  intro heq
  obtain ⟨c, hc, hmark⟩ := h.mark bits hbits
  rw [heq] at hc
  rcases hmark with rfl | rfl
  · exact absurd (mem_integerText hc) (by decide)
  · exact absurd (mem_integerText hc) (by decide)

theorem DoubleText.numberText_injective
    (h : DoubleText doubleText) {n m : Number} (hn : n.Valid) (hm : m.Valid)
    (heq : numberText doubleText n = numberText doubleText m) :
    n = m := by
  cases n with
  | posInt n =>
      cases m with
      | posInt m =>
          have hnat : (n.toNat : Int) = m.toNat := integerText_injective heq
          rw [UInt64.toNat.inj (Int.ofNat_inj.mp hnat)]
      | negInt m =>
          have hint : (n.toNat : Int) = m.toInt := integerText_injective heq
          have hneg : m.toInt < 0 := hm
          omega
      | float bits => exact absurd heq.symm (h.ne_integerText hm _)
  | negInt n =>
      cases m with
      | posInt m =>
          have hint : n.toInt = (m.toNat : Int) := integerText_injective heq
          have hneg : n.toInt < 0 := hn
          omega
      | negInt m =>
          rw [Int64.toInt_inj.mp (integerText_injective heq)]
      | float bits => exact absurd heq.symm (h.ne_integerText hm _)
  | float bits =>
      cases m with
      | posInt m => exact absurd heq (h.ne_integerText hn _)
      | negInt m => exact absurd heq (h.ne_integerText hn _)
      | float bits' => rw [h.injective bits bits' hn hm heq]

theorem DoubleText.isNumberChar_of_mem
    (h : DoubleText doubleText) {n : Number} (hn : n.Valid) {c : Char}
    (hc : c ∈ numberText doubleText n) :
    isNumberChar c = true := by
  have hinteger : ∀ k : Int, c ∈ integerText k → isNumberChar c = true := by
    intro k hk
    rcases mem_integerText hk with rfl | hdigit
    · decide
    · simp [isNumberChar, hdigit]
  cases n with
  | posInt n => exact hinteger _ hc
  | negInt n => exact hinteger _ hc
  | float bits => exact h.chars bits hn c hc

theorem DoubleText.numberText_ne_nil
    (h : DoubleText doubleText) {n : Number} (hn : n.Valid) :
    numberText doubleText n ≠ [] := by
  have hinteger : ∀ k : Int, integerText k ≠ [] := by
    intro k
    unfold integerText
    split_ifs
    · exact List.cons_ne_nil _ _
    · exact Nat.toDigits_ne_nil
  cases n with
  | posInt n => exact hinteger _
  | negInt n => exact hinteger _
  | float bits =>
      obtain ⟨c, hc, -⟩ := h.mark bits hn
      exact List.ne_nil_of_mem hc

theorem DoubleText.numberText_selfDelimiting
    (h : DoubleText doubleText) :
    SelfDelimiting Number.Valid NumberEnds (numberText doubleText) :=
  of_greedy (p := fun c => isNumberChar c = true)
    (fun _ hn _ hc => h.isNumberChar_of_mem hn hc)
    (fun _ _ hn hm heq => h.numberText_injective hn hm heq)

/-! ## Values -/

mutual

def text (doubleText : UInt64 → List Char) : Value → List Char
  | .null => ['n', 'u', 'l', 'l']
  | .bool true => ['t', 'r', 'u', 'e']
  | .bool false => ['f', 'a', 'l', 's', 'e']
  | .number n => numberText doubleText n
  | .string s => quoted s
  | .array elements => '[' :: elementsText doubleText true elements
  | .object fields => '{' :: fieldsText doubleText true fields

def elementsText (doubleText : UInt64 → List Char) (first : Bool) :
    List Value → List Char
  | [] => [']']
  | element :: elements =>
      (if first then [] else [',']) ++
        (text doubleText element ++ elementsText doubleText false elements)

def fieldsText (doubleText : UInt64 → List Char) (first : Bool) :
    List (String × Value) → List Char
  | [] => ['}']
  | (key, value) :: fields =>
      (if first then [] else [',']) ++
        ((quoted key ++ ':' :: text doubleText value) ++
          fieldsText doubleText false fields)

end

/-- All numbers of the value are valid. -/
inductive Value.Valid : Value → Prop
  | null : Valid .null
  | bool (b : Bool) : Valid (.bool b)
  | number {n : Number} (h : n.Valid) : Valid (.number n)
  | string (s : String) : Valid (.string s)
  | array {elements : List Value} (h : ∀ e ∈ elements, Valid e) :
      Valid (.array elements)
  | object {fields : List (String × Value)} (h : ∀ f ∈ fields, Valid f.2) :
      Valid (.object fields)

/-- The text of a field of an object. -/
def fieldText (doubleText : UInt64 → List Char) (field : String × Value) :
    List Char :=
  quoted field.1 ++ ':' :: text doubleText field.2

theorem elementsText_eq_separated
    (first : Bool) (elements : List Value) :
    elementsText doubleText first elements =
      separated (text doubleText) ',' ']' first elements := by
  induction elements generalizing first with
  | nil => rfl
  | cons element elements ih => rw [elementsText, separated, ih]

theorem fieldsText_eq_separated
    (first : Bool) (fields : List (String × Value)) :
    fieldsText doubleText first fields =
      separated (fieldText doubleText) ',' '}' first fields := by
  induction fields generalizing first with
  | nil => rfl
  | cons field fields ih => rw [fieldsText, separated, ih, fieldText]

/-- What the first character of a text tells. -/
inductive Shape
  | null
  | bool (b : Bool)
  | number
  | string
  | array
  | object
deriving DecidableEq

def Value.shape : Value → Shape
  | .null => .null
  | .bool b => .bool b
  | .number _ => .number
  | .string _ => .string
  | .array _ => .array
  | .object _ => .object

def shapeOf (c : Char) : Shape :=
  if c = 'n' then .null
  else if c = 't' then .bool true
  else if c = 'f' then .bool false
  else if c = quotationMark then .string
  else if c = '[' then .array
  else if c = '\x7b' then .object
  else .number

theorem shapeOf_of_isNumberChar
    {c : Char} (h : isNumberChar c = true) :
    shapeOf c = .number ∧ c ≠ ']' := by
  have hne : ∀ other, isNumberChar other = false → c ≠ other := by
    rintro other hother rfl
    rw [hother] at h
    cases h
  refine ⟨?_, hne ']' (by decide)⟩
  rw [shapeOf, if_neg (hne 'n' (by decide)), if_neg (hne 't' (by decide)),
    if_neg (hne 'f' (by decide)), if_neg (hne quotationMark (by decide)),
    if_neg (hne '[' (by decide)), if_neg (hne '\x7b' (by decide))]

theorem text_begins
    (h : DoubleText doubleText) {v : Value} (hv : v.Valid) :
    ∃ c rest, text doubleText v = c :: rest ∧ shapeOf c = v.shape ∧
      c ≠ ']' := by
  cases hv with
  | null => exact ⟨_, _, rfl, by decide, by decide⟩
  | bool b => cases b <;> exact ⟨_, _, rfl, by decide, by decide⟩
  | @number n hn =>
      obtain ⟨c, rest, htext⟩ :=
        List.exists_cons_of_ne_nil (h.numberText_ne_nil hn)
      have hc := h.isNumberChar_of_mem hn (htext ▸ List.mem_cons_self)
      obtain ⟨hshape, hclose⟩ := shapeOf_of_isNumberChar hc
      exact ⟨c, rest, htext, hshape, hclose⟩
  | string s => exact ⟨_, _, rfl, rfl, by decide⟩
  | array => exact ⟨_, _, rfl, rfl, by decide⟩
  | object => exact ⟨_, _, rfl, rfl, by decide⟩

theorem shape_eq_of_append_eq
    (h : DoubleText doubleText) {v w : Value} (hv : v.Valid) (hw : w.Valid)
    {rest rest' : List Char}
    (heq : text doubleText v ++ rest = text doubleText w ++ rest') :
    v.shape = w.shape := by
  obtain ⟨c, more, hc, hshape, -⟩ := text_begins h hv
  obtain ⟨c', more', hc', hshape', -⟩ := text_begins h hw
  rw [hc, hc'] at heq
  obtain rfl := (List.cons.inj heq).1
  rw [← hshape, hshape']

/-- A separator or a bracket goes on with no number. -/
theorem numberEnds_cons
    {c : Char} (h : isNumberChar c = false) (rest : List Char) :
    NumberEnds (c :: rest) := by
  rintro _ ⟨⟩ hnumber
  rw [h] at hnumber
  cases hnumber

theorem delimits_fieldText
    {field : String × Value}
    (h : Delimits Value.Valid NumberEnds (text doubleText) field.2)
    (hvalue : field.2.Valid) :
    Delimits (fun field => True ∧ Value.Valid field.2) NumberEnds
      (fieldText doubleText) field :=
  (quoted_selfDelimiting field.1 trivial).pair (h.cons ':') hvalue
    (fun _ _ _ _ => trivial)

/-- The text of a value tells the value, in front of what ends a number. -/
theorem text_selfDelimiting
    (h : DoubleText doubleText) :
    SelfDelimiting Value.Valid NumberEnds (text doubleText) := by
  intro v hv
  induction hv with
  | null =>
      intro w rest rest' hw _ _ heq
      have hshape := shape_eq_of_append_eq h .null hw heq
      cases hw with
      | null => exact ⟨rfl, List.append_cancel_left heq⟩
      | _ => cases hshape
  | bool b =>
      intro w rest rest' hw _ _ heq
      have hshape := shape_eq_of_append_eq h (.bool b) hw heq
      cases hw with
      | bool b' =>
          obtain rfl := Shape.bool.inj hshape
          exact ⟨rfl, List.append_cancel_left heq⟩
      | _ => cases hshape
  | @number n hn =>
      intro w rest rest' hw hrest hrest' heq
      have hshape := shape_eq_of_append_eq h (.number hn) hw heq
      cases hw with
      | @number n' hn' =>
          obtain ⟨rfl, hrests⟩ := h.numberText_selfDelimiting n hn n' rest rest'
            hn' hrest hrest' heq
          exact ⟨rfl, hrests⟩
      | _ => cases hshape
  | string s =>
      intro w rest rest' hw _ _ heq
      have hshape := shape_eq_of_append_eq h (.string s) hw heq
      cases hw with
      | string s' =>
          obtain ⟨rfl, hrests⟩ := quoted_selfDelimiting s trivial s' rest rest'
            trivial trivial trivial heq
          exact ⟨rfl, hrests⟩
      | _ => cases hshape
  | @array elements helements ih =>
      intro w rest rest' hw _ _ heq
      have hshape := shape_eq_of_append_eq h (.array helements) hw heq
      cases hw with
      | @array elements' helements' =>
          have htail := (List.cons.inj heq).2
          rw [elementsText_eq_separated, elementsText_eq_separated] at htail
          have hhead : ∀ e : Value, e.Valid →
              ∃ c rest, text doubleText e = c :: rest ∧ c ≠ ']' := by
            intro e he
            obtain ⟨c, more, hc, -, hne⟩ := text_begins h he
            exact ⟨c, more, hc, hne⟩
          obtain ⟨rfl, hrests⟩ := delimits_separated ih helements hhead
            (by decide) (by
              rintro c more (rfl | rfl) <;>
              exact numberEnds_cons (by decide) more)
            elements' rest rest' helements' trivial trivial htail
          exact ⟨rfl, hrests⟩
      | _ => cases hshape
  | @object fields hfields ih =>
      intro w rest rest' hw _ _ heq
      have hshape := shape_eq_of_append_eq h (.object hfields) hw heq
      cases hw with
      | @object fields' hfields' =>
          have htail := (List.cons.inj heq).2
          rw [fieldsText_eq_separated, fieldsText_eq_separated] at htail
          obtain ⟨rfl, hrests⟩ := delimits_separated
            (fun f hf => delimits_fieldText (ih f hf) (hfields f hf))
            (fun f hf => ⟨trivial, hfields f hf⟩)
            (fun f _ => ⟨quotationMark, _, rfl, by decide⟩) (by decide) (by
              rintro c more (rfl | rfl) <;>
              exact numberEnds_cons (by decide) more)
            fields' rest rest' (fun f hf => ⟨trivial, hfields' f hf⟩) trivial
            trivial htail
          exact ⟨rfl, hrests⟩
      | _ => cases hshape

/-- Values with one text are equal. -/
theorem text_injective
    (h : DoubleText doubleText) {v w : Value} (hv : v.Valid) (hw : w.Valid)
    (heq : text doubleText v = text doubleText w) :
    v = w :=
  (text_selfDelimiting h v hv).eq_of_code_eq (by rintro _ ⟨⟩) hw heq

end Json
