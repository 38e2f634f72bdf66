import Converge.Codec.Misread
import Converge.Json.Parser

/-!
# Reading from text

* `Misread.place` finds the place in a JSON text at which a misreading shows: behind a refused scalar, in front of a
  refused array or object, behind an object that lacks a member.
* `Codec.readText` reads a value of a type from a text; both kinds of failure end in a place.
-/

namespace Converge

set_option autoImplicit false

namespace Misread

open Json in
/-- The rest of a text from the value under a key on, from behind the opening brace or a comma. -/
def seekKey (key : String) : Nat → List Char → Option (List Char)
  | 0, _ => none
  | fuel + 1, cs =>
    match readString ((skipGap cs).drop 1) with
    | .error _ => none
    | .ok (k, rest) =>
      let value := (skipGap rest).drop 1
      if k = key then some value
      else
        match readValue maxDepth value with
        | .error _ => none
        | .ok (_, rest) => seekKey key fuel ((skipGap rest).drop 1)

open Json in
/-- The rest of a text from the `n`th item on, from behind the opening bracket or a comma. -/
def seekIndex : Nat → List Char → Option (List Char)
  | 0, cs => some cs
  | n + 1, cs =>
    match readValue maxDepth cs with
    | .error _ => none
    | .ok (_, rest) => seekIndex n ((skipGap rest).drop 1)

def seek : List Step → List Char → Option (List Char)
  | [], cs => some (Json.skipGap cs)
  | .key k :: path, cs => (seekKey k (cs.length + 1) ((Json.skipGap cs).drop 1)).bind (seek path)
  | .index n :: path, cs => (seekIndex n ((Json.skipGap cs).drop 1)).bind (seek path)

/-- Whether the misreading shows before the value is read. -/
def showsBefore (e : Misread) : Bool :=
  match e.cause with
  | .kind (.array _) _ => true
  | .kind (.object _) _ => true
  | _ => false

def place (e : Misread) (text : List Char) : Json.Place :=
  let rest := (seek e.path text).getD []
  let rest :=
    if e.showsBefore then rest
    else
      match Json.readValue Json.maxDepth rest with
      | .ok (_, behind) => behind
      | .error _ => rest
  Json.placeBefore text (Text.byteLength rest)

end Misread

/-- Reads a value of a type whose JSON form is an object from a text. What the text begins with is looked at first: if it
is no object, that is the failure, whatever follows. -/
def Codec.readText {α : Type} (read : Json → Except Misread α) (text : String) : Except String α :=
  let cs := text.toList
  let refuse (e : Misread) : Except String α := .error (e.message ++ (e.place cs).suffix)
  let whole : Except String α :=
    match Json.parseChars cs with
    | .error e => .error (e.message cs)
    | .ok v =>
      match read v with
      | .ok a => .ok a
      | .error e => refuse e
  match Json.skipGap cs with
  | '\x7b' :: _ => whole
  | '[' :: _ =>
    match read (.array []) with
    | .ok _ => whole
    | .error e => refuse e
  | first =>
    match Json.readValue Json.maxDepth first with
    | .error _ => whole
    | .ok (v, _) =>
      match read v with
      | .ok _ => whole
      | .error e => refuse e

end Converge
