import Expansion.Json.Lexeme

/-!
# Skipping JSON

What one does who passes a value by: it has to be well formed, but neither its texts nor its numbers
need to mean anything, and it may be as deep as it likes.

* Half of a surrogate pair is as good as a whole one, since four digits are all that is looked at.
* **A number that is cut short is malformed here**, even where the text ends.
* `skipValue` and its companions recurse on a budget that the text's length bounds.
-/

namespace Expansion.Json

/-- The text behind a text in quotes whose opening quote has been taken. -/
def skipString : List Char → Except Fault (List Char)
  | [] => .error .truncated
  | '\\' :: [] => .error .truncated
  | '\\' :: e :: rest =>
    if e = 'u' then
      match takeHex4 rest with
      | .error fault => .error fault
      -- The four digits are characters that the rest of the text may begin with.
      | .ok _ => skipString rest
    else if (plainEscape? e).isSome then skipString rest
    else .error .malformed
  | c :: rest =>
    if c = '"' then .ok rest else if c.toNat < 0x20 then .error .malformed else skipString rest

/-- The text behind a number. -/
def skipNumber (cs : List Char) : Except Fault (List Char) :=
  match takeNumeral cs with
  | .ok (_, rest) => .ok rest
  | .error _ => .error .malformed

/-- The text behind the letters of a word. -/
def skipWord : List Char → List Char → Except Fault (List Char)
  | [], rest => .ok rest
  | _ :: _, [] => .error .truncated
  | w :: more, c :: rest => if w = c then skipWord more rest else .error .malformed

mutual

/-- The text behind a value. -/
def skipValue : Nat → List Char → Except Fault (List Char)
  | 0, _ => .error .truncated
  | budget + 1, cs =>
    match skipGap cs with
    | [] => .error .truncated
    | c :: rest =>
      if c = '"' then skipString rest
      else if c = '[' then skipItems budget true rest
      else if c = '\x7b' then skipMembers budget true rest
      else if c = 'n' then skipWord "ull".toList rest
      else if c = 't' then skipWord "rue".toList rest
      else if c = 'f' then skipWord "alse".toList rest
      else if c = '-' || c.isDigit then skipNumber (c :: rest)
      else .error .malformed

/-- The text behind the end of an array. -/
def skipItems : Nat → Bool → List Char → Except Fault (List Char)
  | 0, _, _ => .error .truncated
  | budget + 1, isFirst, cs =>
    let item (cs : List Char) : Except Fault (List Char) := do
      let rest ← skipValue budget cs
      skipItems budget false rest
    match skipGap cs with
    | [] => .error .truncated
    | c :: rest =>
      if c = ']' then .ok rest
      else if isFirst then item (c :: rest)
      else if c = ',' then item rest
      else .error .malformed

/-- The text behind the end of an object. -/
def skipMembers : Nat → Bool → List Char → Except Fault (List Char)
  | 0, _, _ => .error .truncated
  | budget + 1, isFirst, cs =>
    match skipGap cs with
    | [] => .error .truncated
    | c :: rest =>
      if c = '\x7d' then .ok rest
      else if isFirst then skipMember budget (c :: rest)
      else if c = ',' then skipMember budget rest
      else .error .malformed

/-- The text behind the end of an object, from a key on. -/
def skipMember : Nat → List Char → Except Fault (List Char)
  | 0, _ => .error .truncated
  | budget + 1, cs =>
    match skipGap cs with
    | [] => .error .truncated
    | c :: rest =>
      if c = '"' then do
        let rest ← skipString rest
        match skipGap rest with
        | [] => .error .truncated
        | c :: rest =>
          if c = ':' then do
            let rest ← skipValue budget rest
            skipMembers budget false rest
          else .error .malformed
      else .error .malformed

end

end Expansion.Json
