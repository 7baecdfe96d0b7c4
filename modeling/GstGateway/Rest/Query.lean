import Mathlib.Data.List.Basic

/-! What the handlers read from a request: the query map, `std::stoi`, and `WString2String`.
Wide and narrow strings are both `String` here; the conversion to the system code page is a
parameter. -/

namespace GstGateway

abbrev Query := List (String × String)

inductive StoiError where
  | invalidArgument
  | outOfRange
  deriving DecidableEq, Repr

/-- `iswspace`: the blank and the control characters 9 to 13. -/
def isSpace (c : Char) : Bool := c == ' ' || (9 ≤ c.toNat && c.toNat ≤ 13)

def readSign : List Char → Bool × List Char
  | '-' :: rest => (true, rest)
  | '+' :: rest => (false, rest)
  | rest => (false, rest)

def readDigits (digits : List Char) : Nat :=
  digits.foldl (fun n c => 10 * n + (c.toNat - '0'.toNat)) 0

/-- `std::stoi`: what follows the digits is ignored. -/
def stoi (text : String) : Except StoiError Int :=
  let signed := readSign (text.toList.dropWhile isSpace)
  let digits := signed.2.takeWhile Char.isDigit
  if digits = [] then .error .invalidArgument
  else
    let value : Int := if signed.1 then -(readDigits digits : Int) else readDigits digits
    if value < -2147483648 ∨ 2147483647 < value then .error .outOfRange else .ok value

/-- `WString2String`: the text in the system's code page, which `res.append(buffer)` cuts at
the first terminator. -/
def WString2String (codePage : String → String) (wstr : String) : String :=
  String.ofList ((codePage wstr).toList.takeWhile fun c => c != '\x00')

def conferenceNameStr : String := "conferenceName"
def sipAdaptorIPStr : String := "sipAdaptorIP"
def sipAdaptorVideoPortStr : String := "sipAdaptorVideoPort"
def sipAdaptorAudioPortStr : String := "sipAdaptorAudioPort"

structure GetParams where
  conferenceName : String
  sipAdaptorIP : String
  sipAdaptorVideoPort : Int
  sipAdaptorAudioPort : Int
  deriving DecidableEq, Repr

/-- A GET that ends before it touches the registry: an error reply, or an exception. -/
inductive Refusal where
  | missing (message : String)
  | threw (error : StoiError)
  deriving DecidableEq, Repr

def require (query : Query) (key message : String) : Except Refusal String :=
  match query.lookup key with
  | none => .error (.missing message)
  | some value => .ok value

def toPort (text : String) : Except Refusal Int := (stoi text).mapError .threw

/-- `handleGet` up to `addNewTask`. -/
def readGet (query : Query) : Except Refusal GetParams := do
  let videoPort ← require query sipAdaptorVideoPortStr "no sipAdaptorVideoPort in queryParameters"
  let audioPort ← require query sipAdaptorAudioPortStr "no sipAdaptorAudioPort in queryParameters"
  let conferenceName ← require query conferenceNameStr "no conferenceName in queryParameters"
  let sipAdaptorIP ← require query sipAdaptorIPStr "no sipAdaptorIPStr in queryParameters"
  let sipAdaptorVideoPort ← toPort videoPort
  let sipAdaptorAudioPort ← toPort audioPort
  return { conferenceName, sipAdaptorIP, sipAdaptorVideoPort, sipAdaptorAudioPort }

end GstGateway
