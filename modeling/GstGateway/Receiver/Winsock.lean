import Mathlib.Data.List.Basic

/-! The part of Winsock the receivers use: a table of open UDP sockets. A socket handle is a
bare number, and the number of a closed socket may be handed out again. -/

namespace GstGateway

/-- A conference task is known by its address: `tasks` holds pointers. -/
abbrev Addr := Nat

inductive Kind where
  | video | audio
  deriving DecidableEq, Repr

structure ReceiverId where
  task : Addr
  kind : Kind
  deriving DecidableEq, Repr

/-- `SOCKET`: `NULL`, `INVALID_SOCKET`, or a number given out by `socket()`. -/
inductive Handle where
  | null
  | invalid
  | number (n : Nat)
  deriving DecidableEq, Repr

/-- An open socket. The owner, the receiver that opened it, is ghost. -/
structure Socket where
  handle : Nat
  owner : ReceiverId
  port : Option Nat := none
  deriving DecidableEq, Repr

structure Os where
  sockets : List Socket := []

/-- What `bind` answers. A refusal leaves a non-zero code for `WSAGetLastError`. -/
inductive BindAnswer where
  | bound
  | refused (code : { c : Int // c ≠ 0 })

/-- The system's answers to one attempt: the number `socket()` would like to give, `none`
where it fails, and the answer to `bind`. -/
structure Attempt where
  socket : Option Nat
  bind : BindAnswer

def wsaenotsock : Int := 10038

def wsaeaddrinuse : Int := 10048

theorem wsaeaddrinuse_ne : wsaeaddrinuse ≠ 0 := by decide

namespace Os

def lookup (os : Os) : Handle → Option Socket
  | .number n => os.sockets.find? fun s => s.handle == n
  | _ => none

def highest (sockets : List Socket) : Nat := sockets.foldr (fun s high => max s.handle high) 0

/-- The number wished for where it is free, else one above every number in use. -/
def fresh (os : Os) (wish : Nat) : Nat :=
  if (os.lookup (.number wish)).isNone then wish else highest os.sockets + 1

def socket (os : Os) (owner : ReceiverId) (wish : Nat) : Handle × Os :=
  (.number (os.fresh wish), { os with sockets := { handle := os.fresh wish, owner } :: os.sockets })

def bind (os : Os) (h : Handle) (port : Nat) : Os :=
  { os with sockets := os.sockets.map fun s =>
      if .number s.handle = h then { s with port := some port } else s }

/-- `closesocket` on a number that is not open is an error code nobody reads. -/
def closesocket (os : Os) (h : Handle) : Os :=
  { os with sockets := os.sockets.filter fun s => .number s.handle ≠ h }

theorem handle_le_highest {sockets : List Socket} {s : Socket} (member : s ∈ sockets) :
    s.handle ≤ highest sockets := by
  induction sockets with
  | nil => simp at member
  | cons first rest ih =>
    rw [highest, List.foldr_cons]
    rcases List.mem_cons.mp member with rfl | inside
    · exact Nat.le_max_left _ _
    · exact Nat.le_trans (ih inside) (Nat.le_max_right _ _)

theorem lookup_fresh (os : Os) (wish : Nat) : os.lookup (.number (os.fresh wish)) = none := by
  unfold fresh
  split
  · rename_i free
    exact Option.isNone_iff_eq_none.mp free
  · apply List.find?_eq_none.mpr
    intro s member
    have bound := handle_le_highest member
    simp only [beq_iff_eq]
    omega

theorem lookup_socket (os : Os) (owner : ReceiverId) (wish : Nat) (h : Handle) :
    (os.socket owner wish).2.lookup h =
      if h = (os.socket owner wish).1 then some { handle := os.fresh wish, owner } else os.lookup h := by
  cases h with
  | number n =>
    by_cases same : n = os.fresh wish
    · simp [socket, lookup, same]
    · simp [socket, lookup, same, Ne.symm same]
  | _ => simp [socket, lookup]

theorem lookup_bind (os : Os) (h h' : Handle) (port : Nat) :
    (os.bind h port).lookup h' =
      (os.lookup h').map fun s => if h' = h then { s with port := some port } else s := by
  cases h' with
  | number n =>
    simp only [lookup, bind, List.find?_map]
    have key : ((fun s : Socket => s.handle == n) ∘ fun s =>
        if Handle.number s.handle = h then { s with port := some port } else s) =
        fun s => s.handle == n := by
      funext s
      simp only [Function.comp_apply]
      split <;> rfl
    rw [key]
    cases found : os.sockets.find? (fun s => s.handle == n) with
    | none => rfl
    | some s =>
      have same : s.handle = n := by simpa using List.find?_some found
      simp [same]
  | _ => simp [lookup]

theorem lookup_closesocket (os : Os) (h h' : Handle) :
    (os.closesocket h).lookup h' = if h' = h then none else os.lookup h' := by
  cases h' with
  | number n =>
    simp only [lookup, closesocket]
    split
    · rename_i same
      apply List.find?_eq_none.mpr
      intro s member
      have kept := (List.mem_filter.mp member).2
      simp only [beq_iff_eq]
      rintro rfl
      simp [same] at kept
    · rename_i other
      rw [List.find?_filter]
      congr 1
      funext s
      by_cases same : s.handle = n
      · simp [same, other]
      · simp [same]
  | _ => simp [lookup]

def owner (os : Os) (h : Handle) : Option ReceiverId := (os.lookup h).map Socket.owner

theorem owner_socket (os : Os) (r : ReceiverId) (wish : Nat) (h : Handle) :
    (os.socket r wish).2.owner h = if h = (os.socket r wish).1 then some r else os.owner h := by
  simp only [owner, lookup_socket]
  split <;> rfl

theorem owner_bind (os : Os) (h h' : Handle) (port : Nat) : (os.bind h port).owner h' = os.owner h' := by
  simp only [owner, lookup_bind, Option.map_map]
  congr 1
  funext s
  simp only [Function.comp_apply]
  split <;> rfl

theorem owner_closesocket (os : Os) (h h' : Handle) :
    (os.closesocket h).owner h' = if h' = h then none else os.owner h' := by
  simp only [owner, lookup_closesocket]
  split <;> rfl

theorem owner_given (os : Os) (r : ReceiverId) (wish : Nat) : os.owner (os.socket r wish).1 = none := by
  simp [owner, socket, lookup_fresh]

end Os
end GstGateway
