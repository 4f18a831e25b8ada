import GoCleanArch.Strconv

/-!
What the two `Client` implementations of pkg/cache share: the one `Config` field
they read, the errors they return, and the key helpers of part_022. A Redis
error reply is carried as its text, as go-redis surfaces it.
-/

namespace GoCleanArch

-- `Config.DefaultTTL`; connection and pool settings only reach the Redis driver.
structure Config where
  defaultTTL : Int
  deriving DecidableEq, Repr

inductive CacheError where
  -- `ErrKeyNotFound`
  | keyNotFound
  -- `fmt.Errorf("invalid set data format")` from `deserializeSetMap`
  | invalidSetData
  -- `&Error{Operation: name, Key: key, Err: cause}` around a Redis error reply
  | operation (name key cause : String)
  deriving DecidableEq, Repr

-- The error kinds a caller can tell apart with `errors.Is`.
inductive ErrorKind where
  | success
  | notFound
  | other
  deriving DecidableEq, Repr

def errorKind {α : Type} : Except CacheError α → ErrorKind
  | .ok _ => .success
  | .error .keyNotFound => .notFound
  | .error _ => .other

def lockKey (resource : String) : String := "lock:" ++ resource

def lockedValue : Bytes := [108, 111, 99, 107, 101, 100]

end GoCleanArch
