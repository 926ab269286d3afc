import StoryState.Value.Display

/-!
What a condition computes with: the values of variables and of constants. Beside its value an object
has an origin, which decides whether two objects of one value are the same object.
-/

namespace StoryState.Condition

/-- Where an object comes from. -/
inductive Origin where
  /-- A variable, or the place below it that the path of indices leads to. -/
  | stored (name : String) (path : List Nat)
  /-- A constant of the condition; constants of one value are one object. -/
  | literal
  /-- An operation, which makes a new object each time. -/
  | made
deriving DecidableEq, Repr

/-- An object. -/
inductive Object where
  | none
  | ellipsis
  | bool (b : Bool)
  | int (origin : Origin) (n : Int)
  | float (origin : Origin) (x : Float)
  | complex (origin : Origin) (re im : Float)
  | text (origin : Origin) (s : String)
  | bytes (origin : Origin) (bs : List Nat)
  | list (origin : Origin) (items : List Object)
  | tuple (origin : Origin) (items : List Object)
  | dict (origin : Origin) (fields : List (String × Object))
deriving Inhabited

namespace Object

/-! ### Objects of values -/

mutual

/-- The object of a value of a variable. -/
def ofValue (name : String) (path : List Nat) : Value → Object
  | .null => .none
  | .bool b => .bool b
  | .int n => .int (.stored name path) n
  | .float x => .float (.stored name path) x
  | .text s => .text (.stored name path) s
  | .list items => .list (.stored name path) (ofItems name path 0 items)
  | .object fields => .dict (.stored name path) (ofFields name path 0 fields)

/-- The objects of items from an index on. -/
def ofItems (name : String) (path : List Nat) (index : Nat) : List Value → List Object
  | [] => []
  | v :: vs => ofValue name (index :: path) v :: ofItems name path (index + 1) vs

/-- The objects of fields from an index on. -/
def ofFields (name : String) (path : List Nat) (index : Nat) :
    List (String × Value) → List (String × Object)
  | [] => []
  | (k, v) :: fs => (k, ofValue name (index :: path) v) :: ofFields name path (index + 1) fs

end

/-! ### Sameness -/

/-- Doubles with the same bits that are numbers. -/
def sameFloat (x y : Float) : Bool := x.toBits == y.toBits && x == y

mutual

/-- Constants of one sort and one value. -/
def sameConstant : Object → Object → Bool
  | .none, .none | .ellipsis, .ellipsis => true
  | .bool a, .bool b => a == b
  | .int _ a, .int _ b => a == b
  | .float _ x, .float _ y => sameFloat x y
  | .complex _ a b, .complex _ c d => sameFloat a c && sameFloat b d
  | .text _ s, .text _ t => s == t
  | .bytes _ s, .bytes _ t => s == t
  | .tuple _ xs, .tuple _ ys => sameConstants xs ys
  | _, _ => false

/-- Lists of constants that agree item by item. -/
def sameConstants : List Object → List Object → Bool
  | [], [] => true
  | x :: xs, y :: ys => sameConstant x y && sameConstants xs ys
  | _, _ => false

end

/-- The origin of an object that has one. -/
def origin? : Object → Option Origin
  | .none | .ellipsis | .bool _ => Option.none
  | .int o _ | .float o _ | .complex o _ _ | .text o _ | .bytes o _ | .list o _ | .tuple o _
  | .dict o _ => some o

/-- Whether there is only one object of this value: a small number, a text of no character or of
one within the first 256, bytes alike, and the empty tuple. -/
def isShared : Object → Bool
  | .int _ n => -5 ≤ n && n ≤ 256
  | .text _ s =>
    match s.toList with
    | [] => true
    | [c] => c.toNat < 256
    | _ => false
  | .bytes _ bs => bs.length ≤ 1
  | .tuple _ items => items.isEmpty
  | .none | .ellipsis | .bool _ => true
  | _ => false

/-- Whether two objects are the same one. -/
def same (a b : Object) : Bool :=
  if a.isShared && b.isShared then sameConstant a b
  else
    match a.origin?, b.origin? with
    | some (.stored x p), some (.stored y q) => x == y && p == q
    | some .literal, some .literal => sameConstant a b
    | _, _ => false

/-! ### Numbers -/

/-- A number as arithmetic sees it. -/
inductive Numeric where
  | int (n : Int)
  | float (x : Float)
  | complex (re im : Float)

/-- The number that an object is; a truth value is zero or one. -/
def numeric? : Object → Option Numeric
  | .bool b => some (.int (if b then 1 else 0))
  | .int _ n => some (.int n)
  | .float _ x => some (.float x)
  | .complex _ a b => some (.complex a b)
  | _ => Option.none

/-- The whole number that an object is; a truth value is zero or one. -/
def int? (a : Object) : Option Int :=
  match a.numeric? with
  | some (.int n) => some n
  | _ => Option.none

/-- The order of a whole number and a double; none for NaN. -/
def compareIntFloat (n : Int) (x : Float) : Option Ordering :=
  match Number.parts x with
  | .nan => Option.none
  | .infinite negative => some (if negative then .gt else .lt)
  | .finite negative mantissa exponent => some (Number.compareInt n negative mantissa exponent)

/-- The order of two doubles; none for NaN. -/
def compareFloats (x y : Float) : Option Ordering :=
  if x < y then some .lt else if x == y then some .eq else if x > y then some .gt else Option.none

/-- The order of real numbers; none if one is NaN or is not real. -/
def compareNumeric : Numeric → Numeric → Option Ordering
  | .int a, .int b => some (compare a b)
  | .int a, .float y => compareIntFloat a y
  | .float x, .int b => (compareIntFloat b x).map Ordering.swap
  | .float x, .float y => compareFloats x y
  | _, _ => Option.none

/-- The equality of numbers. -/
def eqNumeric : Numeric → Numeric → Bool
  | .complex a b, .complex c d => a == c && b == d
  | .complex a b, y => b == 0.0 && compareNumeric (.float a) y == some .eq
  | x, .complex c d => d == 0.0 && compareNumeric x (.float c) == some .eq
  | x, y => compareNumeric x y == some .eq

/-! ### Equality -/

mutual

/-- Equality of values. -/
def eq : Object → Object → Bool
  | .none, .none => true
  | .ellipsis, .ellipsis => true
  | .text _ s, .text _ t => s == t
  | .bytes _ s, .bytes _ t => s == t
  | .list _ xs, .list _ ys => eqItems xs ys
  | .tuple _ xs, .tuple _ ys => eqItems xs ys
  | .dict _ xs, .dict _ ys => xs.length == ys.length && eqFields xs ys
  | a, b =>
    match a.numeric?, b.numeric? with
    | some x, some y => eqNumeric x y
    | _, _ => false

/-- Equality of lists, item by item; the same object always agrees with itself. -/
def eqItems : List Object → List Object → Bool
  | [], [] => true
  | x :: xs, y :: ys => (same x y || eq x y) && eqItems xs ys
  | _, _ => false

/-- Whether every field has an equal one among others. -/
def eqFields : List (String × Object) → List (String × Object) → Bool
  | [], _ => true
  | (k, x) :: xs, ys =>
    (match ys.lookup k with
      | some y => same x y || eq x y
      | Option.none => false) && eqFields xs ys

end

/-- Equality of items: the same object always agrees with itself. -/
def agrees (a b : Object) : Bool := same a b || eq a b

/-! ### Order -/

/-- The order of lists of numbers. -/
def compareBytes : List Nat → List Nat → Ordering
  | [], [] => .eq
  | [], _ :: _ => .lt
  | _ :: _, [] => .gt
  | x :: xs, y :: ys => (compare x y).then (compareBytes xs ys)

mutual

/-- The order of two objects, if they have one: the outer answer is none for objects that cannot be
ordered, the inner one for a NaN. -/
def order? : Object → Object → Option (Option Ordering)
  | .text _ s, .text _ t => some (some (compare s t))
  | .bytes _ s, .bytes _ t => some (some (compareBytes s t))
  | .list _ xs, .list _ ys => orderItems? xs ys
  | .tuple _ xs, .tuple _ ys => orderItems? xs ys
  | a, b =>
    match a.numeric?, b.numeric? with
    | some (.complex ..), _ | _, some (.complex ..) => Option.none
    | some x, some y => some (compareNumeric x y)
    | _, _ => Option.none

/-- The order of lists: that of the first items that do not agree, else that of the lengths. -/
def orderItems? : List Object → List Object → Option (Option Ordering)
  | [], [] => some (some .eq)
  | [], _ :: _ => some (some .lt)
  | _ :: _, [] => some (some .gt)
  | x :: xs, y :: ys => if agrees x y then orderItems? xs ys else order? x y

end

/-! ### Truth and membership -/

/-- The truth of an object: nothing, zero and what is empty are false. -/
def truthy : Object → Bool
  | .none => false
  | .ellipsis => true
  | .bool b => b
  | .int _ n => n != 0
  | .float _ x => x != 0.0
  | .complex _ a b => a != 0.0 || b != 0.0
  | .text _ s => s != ""
  | .bytes _ bs => !bs.isEmpty
  | .list _ items | .tuple _ items => !items.isEmpty
  | .dict _ fields => !fields.isEmpty

mutual

/-- Whether an object can be a key. -/
def isKey : Object → Bool
  | .list .. | .dict .. => false
  | .tuple _ items => allKeys items
  | _ => true

/-- Whether all objects can be keys. -/
def allKeys : List Object → Bool
  | [] => true
  | x :: xs => x.isKey && allKeys xs

end

/-- Whether a row of numbers lies in another one without gaps. -/
def isInfix (needle : List Nat) : List Nat → Bool
  | [] => needle.isEmpty
  | x :: xs => needle.isPrefixOf (x :: xs) || isInfix needle xs

/-- Whether an object lies in a container; none if the question has no sense. -/
def member? (a container : Object) : Option Bool :=
  match container with
  | .text _ t =>
    match a with
    | .text _ s => some (isInfix (s.toList.map Char.toNat) (t.toList.map Char.toNat))
    | _ => Option.none
  | .bytes _ bs =>
    match a with
    | .bytes _ needle => some (isInfix needle bs)
    | a =>
      match a.int? with
      | some (.ofNat n) => if n < 256 then some (bs.contains n) else Option.none
      | _ => Option.none
  | .list _ items | .tuple _ items => some (items.any fun x => agrees x a)
  | .dict _ fields =>
    if !a.isKey then Option.none
    else
      match a with
      | .text _ s => some (fields.any fun (k, _) => k == s)
      | _ => some false
  | _ => Option.none

/-! ### Display -/

/-- A part of a complex number: a double without a point if it is whole. -/
def complexPart (x : Float) : List Char :=
  let s := (Number.floatText x).toList
  if s.drop (s.length - 2) = ['.', '0'] then s.take (s.length - 2) else s

/-- The display of a complex number. -/
def complexText (re im : Float) : List Char :=
  let imaginary := complexPart im ++ ['j']
  if re == 0.0 && re.toBits == (0.0 : Float).toBits then imaginary
  else
    '(' :: (complexPart re ++ (if imaginary.head? = some '-' then [] else ['+']) ++ imaginary ++ [')'])

/-- The display of bytes. -/
def bytesText (bs : List Nat) : List Char :=
  let quote := if bs.contains 39 && !bs.contains 34 then '"' else '\''
  let shown (b : Nat) : List Char :=
    if b = quote.toNat || b = 92 then ['\\', Char.ofNat b]
    else if b = 9 then ['\\', 't']
    else if b = 10 then ['\\', 'n']
    else if b = 13 then ['\\', 'r']
    else if b < 32 || b ≥ 127 then '\\' :: 'x' :: Text.hexDigits 2 b
    else [Char.ofNat b]
  'b' :: quote :: (bs.flatMap shown ++ [quote])

mutual

/-- The display of an object inside another one; none if it holds a whole number too long to be
written. -/
def inner? : Object → Option (List Char)
  | .none => some "None".toList
  | .ellipsis => some "Ellipsis".toList
  | .bool b => some (if b then "True" else "False").toList
  | .int _ n => if Number.isWritable n then some (Json.intChars n) else Option.none
  | .float _ x => some (Number.floatText x).toList
  | .complex _ a b => some (complexText a b)
  | .text _ s => some (Value.displayQuoted s.toList)
  | .bytes _ bs => some (bytesText bs)
  | .list _ items => (innerItems? items).map fun parts =>
      '[' :: (Text.joinWith [',', ' '] parts ++ [']'])
  | .tuple _ [x] => (inner? x).map fun part => '(' :: (part ++ [',', ')'])
  | .tuple _ items => (innerItems? items).map fun parts =>
      '(' :: (Text.joinWith [',', ' '] parts ++ [')'])
  | .dict _ fields => (innerFields? fields).map fun parts =>
      '\x7b' :: (Text.joinWith [',', ' '] parts ++ ['\x7d'])

/-- The displays of items. -/
def innerItems? : List Object → Option (List (List Char))
  | [] => some []
  | x :: xs => (inner? x).bind fun part => (innerItems? xs).map (part :: ·)

/-- The displays of fields. -/
def innerFields? : List (String × Object) → Option (List (List Char))
  | [] => some []
  | (k, x) :: xs => (inner? x).bind fun part =>
      (innerFields? xs).map ((Value.displayQuoted k.toList ++ [':', ' '] ++ part) :: ·)

end

/-- The display of an object. -/
def display? : Object → Option (List Char)
  | .text _ s => some s.toList
  | a => a.inner?

end Object

end StoryState.Condition
