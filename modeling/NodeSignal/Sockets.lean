import Mathlib.Tactic

/-!
# Socket calls

What `send()` and `recv()` may do to the program is fixed by the kernel and
the peer.  A schedule lists what each successive `send()` call does; the
receiving side of a connection holds the bytes that have arrived, what is
reported once they are used up, and how many bytes each successive `recv()`
hands over.  Every schedule of positive parts is covered.
-/

namespace NodeSignal

abbrev NsSocket := ℤ

def nsInvalidSocket : NsSocket := -1

def nsSocketIsValid (socketFd : NsSocket) : Bool :=
  socketFd != nsInvalidSocket

/-- The values of `errno` that the program tells apart. -/
inductive Errno where
  | eagain
  | ewouldblock
  | other (code : ℕ)
  deriving DecidableEq

def Errno.wouldBlock : Errno → Bool
  | .eagain => true
  | .ewouldblock => true
  | .other _ => false

/-- One `send()` call that returns: it takes some bytes, at least one and at
most what it was offered, or it fails and sets `errno`.  Where `SIGPIPE` is not
ignored, a call that meets `EPIPE` does not return. -/
inductive SendOutcome where
  | took (count : ℕ)
  | failed (errno : Errno)
  deriving DecidableEq

def sendCount (count size : ℕ) : ℕ := min (max 1 count) size

theorem sendCount_le (count size : ℕ) : sendCount count size ≤ size :=
  min_le_right _ _

/-- What `recv()` reports once every byte that has arrived was read: the end
of the stream, or a failure, which on a non-blocking socket is `EAGAIN`. -/
inductive RecvEnd where
  | eof
  | failed (errno : Errno)
  deriving DecidableEq

structure RecvSocket where
  pending : List UInt8
  ending : RecvEnd
  chunks : List ℕ
  deriving DecidableEq

inductive RecvCall where
  | received (bytes : List UInt8)
  | closed
  | failed (errno : Errno)

/-- One `recv()` call with room for `size` bytes. -/
def RecvSocket.recv (sock : RecvSocket) (size : ℕ) :
    RecvCall × RecvSocket :=
  if sock.pending = [] then
    match sock.ending with
    | .eof => (.closed, sock)
    | .failed errno => (.failed errno, sock)
  else
    let count := min (max 1 (sock.chunks.headD size)) size
    (.received (sock.pending.take count),
      { sock with
        pending := sock.pending.drop count
        chunks := sock.chunks.tail })

end NodeSignal
