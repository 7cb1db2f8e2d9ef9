import IviLink.Lib.Istream
import IviLink.Lib.Run
import Mathlib.Data.List.DropRight

/-!
# The configurator

A configuration file has lines `key=value`. `ReadFile` reads it line by line into a fixed buffer,
`Parse` makes a list of parameters of the lines with an `=`, and `Configurator` looks for the first
parameter with a key. Setting a parameter removes what is equal to the first one with the key and
appends the new one. `save` writes one line for each.

Strings are lists of bytes. Whether a `char` is signed is left to the implementation of C++.
-/

namespace IviLink.Utils.Conf

open IviLink.Lib

abbrev Str := List UInt8

def newline : UInt8 := 10

def space : UInt8 := 32

def equals : UInt8 := 61

/-- `push_back(readbuf)`: the string ends at the first zero byte. -/
def c_str (readbuf : Str) : Str := readbuf.takeWhile fun c => c ≠ 0

/-- `sizeof(readbuf) - 1` -/
def bufferSize : Nat := 2047

/-- The loop of `ReadFile`, for this many rounds at most. -/
def readLines : Nat → Istream UInt8 → Option (List Str)
  | 0, _ => none
  | rounds + 1, inifile =>
    if inifile.eofbit then some []
    else
      let (inifile, readbuf) := inifile.getline newline bufferSize
      (readLines rounds inifile).map fun result => c_str readbuf :: result

/-- `ReadFile` of a file with this content returns these strings. -/
def ReadFile (content : Str) (result : List Str) : Prop :=
  ∃ rounds, readLines rounds (.opened content) = some result

/-- The lines of a file: what stands between the newlines. -/
def lines (content : Str) : List Str := content.splitOn newline

/-! ## Parsing -/

/-- `Split`: what stands before and behind the first delimiter. Without one both are the string:
`pos + 1` is 0 then. -/
def Split (str : Str) (delimiter : UInt8) : Str × Str :=
  if delimiter ∈ str then
    (str.takeWhile fun c => c ≠ delimiter, (str.dropWhile fun c => c ≠ delimiter).tail)
  else (str, str)

/-- `rstr[i] > ' '` -/
def aboveSpace (charSigned : Bool) (c : UInt8) : Bool :=
  space < c && !(charSigned && 128 ≤ c)

/-- `str.substr(0, str.find_last_not_of(" ") + 1)` -/
def trimRight (str : Str) : Str := str.rdropWhile fun c => c = space

def Trim (charSigned : Bool) (str : Str) : Str :=
  match (trimRight str).dropWhile fun c => !aboveSpace charSigned c with
  | [] => [space]
  | rest => rest

structure kvpair where
  key : Str
  value : Str
  deriving DecidableEq, Repr

def ParserLine (charSigned : Bool) (str : Str) : kvpair where
  key := Trim charSigned (Split str equals).1
  value := Trim charSigned (Split str equals).2

def Parse (charSigned : Bool) (mnt : List Str) : List kvpair :=
  (mnt.filter fun str => equals ∈ str).map (ParserLine charSigned)

/-! ## Parameters -/

def getParam (paramlist : List kvpair) (key : Str) : Str :=
  match paramlist.find? fun i => i.key = key with
  | none => []
  | some i => i.value

/-- `paramlist.remove` removes everything that is equal. -/
def delParam (paramlist : List kvpair) (key : Str) : List kvpair :=
  match paramlist.find? fun i => i.key = key with
  | none => paramlist
  | some i => paramlist.filter fun p => p ≠ i

def setParam (paramlist : List kvpair) (key value : Str) : List kvpair :=
  delParam paramlist key ++ [⟨key, value⟩]

/-- What `save` writes. -/
def save (paramlist : List kvpair) : Str :=
  paramlist.flatMap fun i => i.key ++ equals :: i.value ++ [newline]

/-! ## A configurator and its clients -/

/-- A key or a value that is set: without `=`, newlines and surrounding spaces. -/
structure PlainStr where
  str : Str
  noEquals : equals ∉ str
  noNewline : newline ∉ str
  noFirstSpace : str.head? ≠ some space
  noLastSpace : str.getLast? ≠ some space

structure Configurator where
  paramlist : List kvpair
  /-- What has been set, the last first. -/
  sets : List kvpair
  /-- What the file contains, if it has been saved and nothing was set after that. -/
  saved : Option Str

namespace Configurator

/-- The constructor, when it has read these strings. -/
def opened (charSigned : Bool) (mnt : List Str) : Configurator := ⟨Parse charSigned mnt, [], none⟩

inductive Step
  | setParam (key value : PlainStr)
  | save

def step (c : Configurator) : Step → Option Configurator
  | .setParam key value =>
    some ⟨setParam c.paramlist key.str value.str, ⟨key.str, value.str⟩ :: c.sets, none⟩
  | .save => some { c with saved := some (save c.paramlist) }

/-- A key has the value that was set last, and has in the file what it has here. -/
structure Survives (charSigned : Bool) (c : Configurator) : Prop where
  latest : ∀ key i, c.sets.find? (fun i => i.key = key) = some i →
    getParam c.paramlist key = i.value
  reread : ∀ content, c.saved = some content → ∃ mnt, ReadFile content mnt
    ∧ ∀ key, getParam (Parse charSigned mnt) key = getParam c.paramlist key

/-- Of the values that the key has, the first that differs from the first of all is the new one. -/
def Replaces (paramlist : List kvpair) (key value : Str) : Prop :=
  ∀ i, paramlist.find? (fun i => i.key = key) = some i →
    ∀ j, (paramlist.filter fun p => p ≠ i).find? (fun j => j.key = key) = some j → j.value = value

/-- The parameter is read as it was written. -/
structure Stable (charSigned : Bool) (i : kvpair) : Prop where
  key : Trim charSigned i.key = i.key
  value : Trim charSigned i.value = i.value
  keyZero : 0 ∉ i.key
  valueZero : 0 ∉ i.value

/-- The first parameter of each key is read as it was written, or it is empty and nothing is found
in its place: its key is cut, or is trimmed to the one of a parameter before it. -/
def Kept (charSigned : Bool) (paramlist : List kvpair) : Prop :=
  ∀ front i back, paramlist = front ++ i :: back → (∀ j ∈ front, j.key ≠ i.key) →
    Stable charSigned i ∨ i.value = [] ∧ (0 ∈ i.key
      ∨ ∃ j ∈ front, 0 ∉ j.key ∧ Trim charSigned j.key = Trim charSigned i.key)

/-- What a step has to meet. A line has the key, the value and the `=`. -/
def Careful (charSigned : Bool) (c : Configurator) : Step → Prop
  | .setParam key value => Replaces c.paramlist key.str value.str
  | .save => (∀ i ∈ c.paramlist, i.key.length + i.value.length + 1 ≤ 2046)
      ∧ Kept charSigned c.paramlist

end Configurator

end IviLink.Utils.Conf
