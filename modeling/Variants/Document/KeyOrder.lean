import Variants.Document.Value

/-!
The order of keys. Texts, numbers, dates, moments and byte strings each have an order of their own, and
keys of two such kinds have none.
-/

namespace Variants.Value

def comparable : Value → Value → Bool
  | text _, text _ | date _, date _ | bytes _, bytes _ => true
  | moment m, moment n => m.offset.isSome == n.offset.isSome
  | a, b => a.quantity?.isSome && b.quantity?.isSome

def precedes : Value → Value → Bool
  | text s, text t => s < t
  | date d, date e => d.dayNumber < e.dayNumber
  | moment m, moment n => m.instant < n.instant
  | bytes bs, bytes cs => bs < cs
  | a, b =>
    match a.quantity?, b.quantity? with
    | some x, some y => x.precedes y
    | _, _ => false

def sortKeys? (keys : List Value) : Option (List Value) :=
  match keys with
  | [] | [_] => some keys
  | first :: rest =>
    if rest.all first.comparable then some (keys.mergeSort fun a b => !b.precedes a) else none

end Variants.Value
