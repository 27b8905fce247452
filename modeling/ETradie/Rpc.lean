import Mathlib.Tactic

namespace ETradie

structure Claims where
  userId : String
  role : String := "etradie"
  tier : String
deriving DecidableEq

def roleAdmin : String := "admin"

inductive Code where
  | unauthenticated | permissionDenied | invalidArgument | internal
  | unavailable | deadlineExceeded | canceled
deriving DecidableEq

structure RpcError where
  code : Code
  message : String
deriving DecidableEq

end ETradie
