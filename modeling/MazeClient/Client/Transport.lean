import MazeClient.Session.Cursor

set_option autoImplicit false

namespace MazeClient

inductive StatusCode where
  | ok
  | cancelled
  | unknown
  | invalidArgument
  | deadlineExceeded
  | notFound
  | alreadyExists
  | permissionDenied
  | resourceExhausted
  | failedPrecondition
  | aborted
  | outOfRange
  | unimplemented
  | internal
  | unavailable
  | dataLoss
  | unauthenticated
  deriving DecidableEq

def StatusCode.number : StatusCode → Nat
  | .ok => 0
  | .cancelled => 1
  | .unknown => 2
  | .invalidArgument => 3
  | .deadlineExceeded => 4
  | .notFound => 5
  | .alreadyExists => 6
  | .permissionDenied => 7
  | .resourceExhausted => 8
  | .failedPrecondition => 9
  | .aborted => 10
  | .outOfRange => 11
  | .unimplemented => 12
  | .internal => 13
  | .unavailable => 14
  | .dataLoss => 15
  | .unauthenticated => 16

def StatusCode.retryable : StatusCode → Bool
  | .aborted | .cancelled | .deadlineExceeded | .internal | .resourceExhausted | .unknown
  | .unavailable => true
  | _ => false

structure Status where
  code : StatusCode := .ok
  message : String := ""
  deriving DecidableEq

-- `!retryable || attempt == 2` ends the loop of Transport::InvokeUnary.
def givesUp (attempt : Nat) (code : StatusCode) : Bool := !code.retryable || attempt = 2

end MazeClient
