import Stacktrace.Log.Directive

/-!
# Event templates

A log call may hand over arguments beside its event; they are put into the event's directives, one
after the other. Two percent signs stand for one. A call whose only argument is a mapping that is not
empty hands over the members of the mapping: a directive with a key takes the member of that name, and
one directive without a key takes the whole mapping.

Too few and too many arguments are faults, and so is a directive that is not complete or has no form
that is known.
-/

namespace Stacktrace.Log

open Text

/-- What is left to put into a template: a list of values, or members of a mapping and the value that
the next directive takes. -/
inductive Arguments where
  | listed (values : List Value)
  | named (members : List (Value × Value)) (next : Option Value)

namespace Arguments

def take : Arguments → Except Fault (Value × Arguments)
  | listed (v :: vs) => .ok (v, listed vs)
  | named members (some v) => .ok (v, named members none)
  | _ => .error .unsuitableValue

/-- Makes the member with a directive's key the next value. -/
def select (key : Key) (args : Arguments) : Except Fault Arguments :=
  match key, args with
  | .absent, _ => .ok args
  | _, listed _ => .error .unsuitableValue
  | .unclosed, _ => .error (.badTemplate "incomplete format key".toList)
  | .named name, named members _ =>
    match Value.entry? name members with
    | some v => .ok (named members (some v))
    | none => .error .unknownMember

/-- Whether no value of a list is left over. -/
def areUsed : Arguments → Bool
  | listed vs => vs.isEmpty
  | named _ _ => true

/-- The bounds of amounts that are arguments: a width may take eight octets, a precision four. -/
def amountBound (octets : Nat) : Int := Nat.pow 2 (8 * octets - 1)

def amount (octets : Nat) : Option Amount → Arguments → Except Fault (Option Int × Arguments)
  | none, args => .ok (none, args)
  | some (.number n), args => .ok (some n, args)
  | some .next, args => do
    let (v, args) ← args.take
    match integer? v with
    | none => .error .unsuitableValue
    | some i =>
      if -amountBound octets ≤ i && i < amountBound octets then .ok (some i, args)
      else .error .numberOutOfRange

end Arguments

/-- The complaint about a form that is not known, with its place in the template. -/
def unknownForm (letter : Char) (index : Nat) : Fault :=
  let visible := if 31 ≤ letter.toNat && letter.toNat ≤ 126 then letter else '?'
  .badTemplate ("unsupported format character '".toList ++ visible :: "' (0x".toList ++
    Nat.toDigits 16 letter.toNat ++ ") at index ".toList ++ Nat.toDigits 10 index)

/-- Shows the argument of a directive, given where its form stands in the template. A negative width
asks for the left, and a negative precision is none at all. -/
def Directive.apply (d : Directive) (index : Nat) (args : Arguments) :
    Except Fault (Text × Arguments) := do
  let args ← args.select d.key
  let (width, args) ← args.amount 8 d.width
  let (precision, args) ← args.amount 4 d.precision
  match d.form with
  | none => .error (.badTemplate "incomplete format".toList)
  | some letter =>
    let (v, args) ← args.take
    let layout : Layout :=
      { flags := { d.flags with left := d.flags.left || width.any (· < 0) }
        width := (width.getD 0).natAbs
        precision := precision.map Int.toNat }
    match layout.shown? letter v with
    | none => .error (unknownForm letter index)
    | some shown => return (layout.fill (← shown), args)

/-- Puts arguments into the rest of a template of a given length. The first argument bounds the number
of directives. -/
def fillFrom (length : Nat) : Nat → Text → Arguments → Except Fault Text
  | 0, s, _ => .ok s
  | _, [], args => if args.areUsed then .ok [] else .error .unsuitableValue
  | fuel + 1, '%' :: '%' :: s, args => do
    return '%' :: (← fillFrom length fuel s args)
  | fuel + 1, c :: s, args =>
    if c = '%' then do
      let (d, rest) := Directive.read s
      let (text, args) ← d.apply (length - rest.length - 1) args
      return text ++ (← fillFrom length fuel rest args)
    else do
      return c :: (← fillFrom length fuel s args)

/-- Puts arguments into a template. It has no more directives than characters. -/
def fillWith (event : Text) (arguments : Arguments) : Except Fault Text :=
  fillFrom event.length (event.length + 1) event arguments

def fillTemplate (event : Text) : List Value → Except Fault Text
  | [] => .ok event
  | [.map (e :: es)] => fillWith event (.named (e :: es) (some (.map (e :: es))))
  | values => fillWith event (.listed values)

end Stacktrace.Log
