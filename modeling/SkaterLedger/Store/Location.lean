import SkaterLedger.Text.Digit
import SkaterLedger.Text.Search
import SkaterLedger.Text.Utf8

/-!
# Locations of stores

A store is named by the path of its file, or by a URI `file:path?name=value&name=value#comment`. In a
URI, `%` and two hexadecimal digits stand for a byte, and the parameters say how the file is used. A
location without a file names a store that lasts as long as the command.
-/

namespace SkaterLedger

/-- What may be done with the file of a store. -/
inductive Access where
  /-- The file is only read. -/
  | read
  /-- The file is read and written. -/
  | write
  /-- The file is read and written, and made if there is none. -/
  | create
  /-- There is no file. -/
  | memory
deriving DecidableEq, Repr

namespace Access

/-- The access that a value of the parameter `mode` asks for. -/
def ofMode? : String → Option Access
  | "ro" => some read
  | "rw" => some write
  | "rwc" => some create
  | "memory" => some memory
  | _ => none

/-- How much an access allows. -/
def rank : Access → Nat
  | read => 0
  | write => 1
  | create => 2
  | memory => 3

/-- Whether an access may be asked for after another one: it allows no more, or needs no file. -/
def mayFollow (next before : Access) : Bool := next == memory || next.rank ≤ before.rank

end Access

/-- How a file is guarded against its other users. -/
inductive Guard where
  /-- By locks and a log that all users share. -/
  | shared
  /-- Not at all, or without a log. -/
  | alone
  /-- Not at all, since nobody changes the file. -/
  | frozen
deriving DecidableEq, Repr

/-- What keeps a store. -/
inductive Backing where
  /-- A file with a log. -/
  | logged
  /-- A file without a log. -/
  | plain
  /-- Memory. -/
  | memory
deriving DecidableEq, Repr

/-- The backing that a value of the parameter `vfs` asks for. -/
def Backing.ofName? : String → Option Backing
  | "unix" => some logged
  | "unix-excl" => some logged
  | "unix-none" => some plain
  | "unix-dotfile" => some plain
  | "memdb" => some memory
  | _ => none

/-- Where a store is and how it is used. -/
structure Location where
  /-- The path of the file, if there is one. -/
  file : Option String
  /-- Whether the file is made if there is none. -/
  creates : Bool
  /-- Whether the store may be changed. -/
  writable : Bool
  /-- How the file is guarded. -/
  guarded : Guard
  /-- A path where something has to be, whose permissions a new file would get. -/
  model : Option String
deriving DecidableEq, Repr

namespace Location

/-- Whether a path names no file. -/
def namesNoFile (path : String) : Bool := path == "" || path == ":memory:"

/-- The steps of a path, last one first, after one more name; `..` undoes a step. -/
def takeStep (absolute : Bool) (done : List (List Char)) (name : List Char) : List (List Char) :=
  if name.isEmpty || name == ['.'] then done
  else if name == ['.', '.'] then
    match done with
    | [] => if absolute then [] else [name]
    | last :: rest => if last == ['.', '.'] then name :: done else rest
  else name :: done

/-- A path without the steps that lead nowhere. What the steps lead through need not exist. -/
def tidy (path : String) : String :=
  let absolute := path.toList.head? == some '/'
  let steps := ((Text.splitAll ['/'] path.toList).foldl (takeStep absolute) []).reverse
  let names := "/".intercalate (steps.map String.ofList)
  if absolute then "/" ++ names else if names == "" then "." else names

/-- The location of a plain path. -/
def ofPath (path : String) : Location where
  file := if namesNoFile path then none else some (tidy path)
  creates := true
  writable := true
  guarded := .shared
  model := none

/-- The bytes of a part of a URI. -/
def bytesOf : List Char → List UInt8
  | [] => []
  | '%' :: high :: low :: cs =>
    match Text.hexValue? high, Text.hexValue? low with
    | some h, some l => .ofNat (16 * h + l) :: bytesOf cs
    | _, _ => Text.encodeChar '%' ++ bytesOf (high :: low :: cs)
  | c :: cs => Text.encodeChar c ++ bytesOf cs

/-- The text of a part of a URI, which ends at a zero byte. -/
def textOf (part : List Char) : String :=
  String.ofList ((Text.decode ((bytesOf part).takeWhile (· != 0))).map (·.getD '\uFFFD'))

/-- The name and the value of a parameter. -/
def parameterOf (part : List Char) : String × String :=
  match Text.cutAt ['='] part with
  | some (name, value) => (textOf name, textOf value)
  | none => (textOf part, "")

/-- The parameters of a URI, without those that have no name. -/
def parametersOf (query : List Char) : List (String × String) :=
  ((Text.splitAll ['&'] query).map parameterOf).filter fun p => p.1 != ""

/-- The access after a parameter. -/
def readAccess (access : Access) : String × String → Option Access
  | ("mode", value) => (Access.ofMode? value).filter fun next => next.mayFollow access
  | ("cache", value) => if value == "shared" || value == "private" then some access else none
  | _ => some access

/-- The largest number that a parameter may hold. -/
def maxNumber : Nat := 0x7FFFFFFF

/-- Whether the value of a parameter means yes. -/
def isYes (value : String) : Bool :=
  match value.toList with
  | [] => false
  | c :: cs =>
    if Text.isAsciiDigit c then
      let n := Text.numberOfDigits ((c :: cs).takeWhile Text.isAsciiDigit)
      n ≤ maxNumber && n % 256 != 0
    else ["on", "yes", "true"].contains (String.ofList ((c :: cs).map Char.toLower))

/-- The location of a path and parameters; of a repeated parameter the last one counts for the
backing, and the first one for all that concerns the file. -/
def ofParameters? (path : String) (parameters : List (String × String)) : Option Location := do
  let backing ← Backing.ofName? ((parameters.reverse.lookup "vfs").getD "unix")
  let access ← parameters.foldlM readAccess .create
  let has (name : String) := ((parameters.lookup name).map isYes).getD false
  let named := !namesNoFile path && access != .memory
  some {
    file := if named && backing != .memory then some (tidy path) else none
    creates := access == .create
    writable := access != .read && !(named && has "immutable")
    guarded :=
      if has "immutable" then .frozen
      else if has "nolock" || backing == .plain then .alone
      else .shared
    model := parameters.lookup "modeof" }

/-- What follows the host of a URI, which can only be this computer. -/
def afterHost? : List Char → Option (List Char)
  | '/' :: '/' :: cs =>
    let host := cs.takeWhile (· != '/')
    if host.isEmpty || host == "localhost".toList then some (cs.dropWhile (· != '/')) else none
  | cs => some cs

/-- The location that a URI names after its scheme. -/
def ofUri? (cs : List Char) : Option Location := do
  let cs ← afterHost? cs
  let address := cs.takeWhile (· != '#')
  let path := address.takeWhile (· != '?')
  ofParameters? (textOf path) (parametersOf (address.drop (path.length + 1)))

/-- The scheme of a URI. -/
def scheme : List Char := "file:".toList

/-- The location that a text names, if it can name one. -/
def ofText? (text : String) : Option Location :=
  if text.toList.contains '\x00' then none
  else if scheme.isPrefixOf text.toList then ofUri? (text.toList.drop scheme.length)
  else some (ofPath text)

end Location

end SkaterLedger
