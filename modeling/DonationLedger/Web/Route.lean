import DonationLedger.Id
import DonationLedger.Text.Basic
import DonationLedger.Text.Utf8

/-!
# Routes of the web interface

Which operation a method and a target ask for. The target is a path, or an address with a scheme
and an authority before its path. A path is split at its slashes, so a slash at the end makes
another path. The pieces that name something are percent-encoded; one at the end may not be empty.
What follows a question mark or a number sign plays no part.
-/

namespace DonationLedger.Web

/-- An operation of the web interface. -/
inductive Route
  | health
  | enqueue (id : Id)
  | follow (chain : String)
  | checkpoint (chain : String)
  deriving DecidableEq, Repr

/-- Why a request asks for no operation. -/
inductive Refusal
  | notFound
  | methodNotAllowed
  | badParameter
  deriving DecidableEq, Repr

def Refusal.status : Refusal → Nat
  | notFound => 404
  | methodNotAllowed => 405
  | badParameter => 400

/-- Whether a method reads. A request for the head only reads too, and gets no body. -/
def isRead (method : String) : Bool := method == "GET" || method == "HEAD"

/-- The named piece of a path. -/
def parameter (piece : String) : Except Refusal String :=
  match Text.percentDecode? piece with
  | some text => .ok text
  | none => .error .badParameter

/-- The operation at an allowed method. -/
def allowing (allowed : Bool) (r : Except Refusal Route) : Except Refusal Route :=
  if allowed then r else .error .methodNotAllowed

/-- Whether a character may stand in the scheme of an address. -/
def isSchemeChar (c : Char) : Bool := c.isAlphanum || c = '+' || c = '-' || c = '.'

/-- The path of an address that begins with a scheme, and of anything else the whole of it. -/
def withoutAuthority (cs : List Char) : List Char :=
  match cs.dropWhile isSchemeChar with
  | ':' :: '/' :: '/' :: rest => rest.dropWhile fun c => c ≠ '/'
  | _ => cs

/-- The pieces of the path of a target. -/
def pieces (target : String) : List String :=
  Text.split '/' (String.ofList
    (withoutAuthority (target.toList.takeWhile fun c => c ≠ '?' && c ≠ '#')))

/-- The operation that a request asks for. -/
def route (method target : String) : Except Refusal Route :=
  let post := method == "POST"
  match pieces target with
  | ["", "health"] => allowing (isRead method) (.ok .health)
  | ["", "api", "v1", "settlements", piece] =>
    if piece.isEmpty then .error .notFound
    else allowing post do
      let text ← parameter piece
      match Id.ofUuid? text with
      | some id => .ok (.enqueue id)
      | none => .error .badParameter
  | ["", "api", "v1", "sync", piece] =>
    if piece.isEmpty then .error .notFound
    else allowing post do
      let text ← parameter piece
      .ok (.follow text)
  | ["", "api", "v1", "sync", piece, "checkpoint"] =>
    allowing (isRead method) do
      let text ← parameter piece
      .ok (.checkpoint text)
  | _ => .error .notFound

end DonationLedger.Web
