import MuxConsole.Json.Render
import MuxConsole.Proofs.Json.Shape

/-!
# What JSON texts denote

The texts of a value, apart from any reader: characters stand for themselves or are
escaped, blanks stand wherever they may, and of members of one name the last one
counts.  Numbers are the whole ones.
-/

namespace MuxConsole.Json

/-! ## Texts -/

def DenotesUnit (digits : Bytes) (unit : Nat) : Prop :=
  ∃ a b c d, digits.map Ascii.hexValue? = [some a, some b, some c, some d] ∧
    ((a * 16 + b) * 16 + c) * 16 + d = unit

def escapeLetters : List (UInt8 × Char) :=
  [(Ascii.quote, '"'), (Ascii.backslash, '\\'), (Ascii.slash, '/'), (Ascii.lowerB, '\x08'),
    (Ascii.lowerF, '\x0c'), (Ascii.lowerN, '\n'), (Ascii.lowerR, '\r'), (Ascii.lowerT, '\t')]

/-- A character beyond the 16-bit ones may be escaped as a pair of surrogates. -/
inductive DenotesChar : Bytes → Char → Prop
  | plain {c : Char} (noQuote : c ≠ '"') (noBackslash : c ≠ '\\') (noControl : 0x20 ≤ c.toNat) :
      DenotesChar (String.utf8EncodeChar c) c
  | letter {l : UInt8} {c : Char} (h : (l, c) ∈ escapeLetters) : DenotesChar [Ascii.backslash, l] c
  | unit {c : Char} {digits : Bytes} (h : DenotesUnit digits c.toNat) :
      DenotesChar (Ascii.backslash :: Ascii.lowerU :: digits) c
  | pair {c : Char} {leading trailing : Bytes} (beyond : 0x10000 ≤ c.toNat)
      (first : DenotesUnit leading (0xD800 + (c.toNat - 0x10000) / 0x400))
      (second : DenotesUnit trailing (0xDC00 + (c.toNat - 0x10000) % 0x400)) :
      DenotesChar (Ascii.backslash :: Ascii.lowerU ::
        (leading ++ Ascii.backslash :: Ascii.lowerU :: trailing)) c

inductive DenotesChars : Bytes → List Char → Prop
  | nil : DenotesChars [] []
  | cons {body more : Bytes} {c : Char} {text : List Char} (first : DenotesChar body c)
      (rest : DenotesChars more text) : DenotesChars (body ++ more) (c :: text)

def DenotesText (quoted : Bytes) (s : String) : Prop :=
  ∃ body, DenotesChars body s.toList ∧ quoted = Ascii.quote :: (body ++ [Ascii.quote])

/-! ## Lists and objects -/

abbrev IsBlank (blanks : Bytes) : Prop := ∀ b ∈ blanks, isBlankByte b = true

theorem isBlank_nil : IsBlank [] := List.forall_mem_nil _

structure Spaced (α : Type) where
  before : Bytes
  text : Bytes
  after : Bytes
  content : α
  blankBefore : IsBlank before
  blankAfter : IsBlank after

namespace Spaced

variable {α : Type}

def bytes (spaced : Spaced α) : Bytes := spaced.before ++ (spaced.text ++ spaced.after)

def tight (text : Bytes) (content : α) : Spaced α where
  before := []
  text := text
  after := []
  content := content
  blankBefore := List.forall_mem_nil _
  blankAfter := List.forall_mem_nil _

theorem bytes_tight (text : Bytes) (content : α) : (tight text content).bytes = text :=
  List.append_nil text

end Spaced

/-- The rest of a list or an object, from the end of an item or a member on. -/
def tailed (close : UInt8) : List Bytes → Bytes
  | [] => [close]
  | item :: rest => Ascii.comma :: (item ++ tailed close rest)

def enclosed (close : UInt8) : List Bytes → Bytes
  | [] => [close]
  | item :: rest => item ++ tailed close rest

structure Assigned (α : Type) where
  key : Spaced String
  value : Spaced α

namespace Assigned

variable {α : Type}

def bytes (member : Assigned α) : Bytes := member.key.bytes ++ Ascii.colon :: member.value.bytes

def content (member : Assigned α) : String × α := (member.key.content, member.value.content)

end Assigned

/-! ## Values -/

/-- A text of a value, in which lists and objects are nested at most so deep. -/
inductive Denotes : Nat → Bytes → Json → Prop
  | null {depth : Nat} : Denotes depth (Utf8.encode "null") .null
  | bool {depth : Nat} (b : Bool) : Denotes depth (Utf8.encodeChars (renderBool b)) (.bool b)
  | number {depth : Nat} {n : Int} (inRange : IsWord n) :
      Denotes depth (Utf8.encodeChars (renderWhole n)) (.number (.whole n inRange))
  | text {depth : Nat} {quoted : Bytes} {s : String} (h : DenotesText quoted s) :
      Denotes depth quoted (.text s)
  | list {depth : Nat} {blanks : Bytes} {items : List (Spaced Json)} (blank : IsBlank blanks)
      (each : ∀ item ∈ items, Denotes depth item.text item.content) :
      Denotes (depth + 1)
        (Ascii.openBracket ::
          (blanks ++ enclosed Ascii.closeBracket (items.map Spaced.bytes)))
        (.list (items.map Spaced.content))
  | object {depth : Nat} {blanks : Bytes} {members : List (Assigned Json)}
      (blank : IsBlank blanks)
      (keys : ∀ member ∈ members, DenotesText member.key.text member.key.content)
      (each : ∀ member ∈ members, Denotes depth member.value.text member.value.content) :
      Denotes (depth + 1)
        (Ascii.openBrace ::
          (blanks ++ enclosed Ascii.closeBrace (members.map Assigned.bytes)))
        (.object (Members.collect (members.map Assigned.content)))

/-- A whole text of a value, with blanks around it, nested no deeper than 127. -/
def IsTextOf (bytes : Bytes) (j : Json) : Prop :=
  ∃ whole : Spaced Json, whole.bytes = bytes ∧ whole.content = j ∧ Denotes 127 whole.text j

theorem Denotes.integral {depth : Nat} {text : Bytes} {j : Json} (h : Denotes depth text j) :
    Integral j := by
  induction h with
  | null => exact .null
  | bool b => exact .bool b
  | number inRange => exact .number inRange
  | text => exact .text _
  | list _ _ ih =>
      refine .list fun item hitem => ?_
      obtain ⟨spaced, hspaced, rfl⟩ := List.mem_map.mp hitem
      exact ih spaced hspaced
  | object _ _ _ ih =>
      refine .object fun member hmember => ?_
      obtain ⟨assigned, hassigned, rfl⟩ := List.mem_map.mp (Members.mem_collect hmember)
      exact ih assigned hassigned

theorem IsTextOf.integral {bytes : Bytes} {j : Json} (h : IsTextOf bytes j) : Integral j := by
  obtain ⟨_, _, _, denotes⟩ := h
  exact denotes.integral

end MuxConsole.Json
