/-
# Identifiers

Users, groups, conversations, messages and notifications are named by signed 64-bit
numbers. A number names a real record only when it is positive (`isValid`); zero and
negative numbers still travel through the system, and requests that carry one fail
validation. An identifier is written as its decimal number, on the wire too.
-/
namespace Switchboard

structure UserId where
  val : Int
  deriving DecidableEq, Repr, Hashable, Ord

structure GroupId where
  val : Int
  deriving DecidableEq, Repr, Hashable, Ord

/-- A direct conversation between two users. -/
structure ConversationId where
  val : Int
  deriving DecidableEq, Repr, Hashable, Ord

structure MessageId where
  val : Int
  deriving DecidableEq, Repr, Hashable, Ord

structure NotificationId where
  val : Int
  deriving DecidableEq, Repr, Hashable, Ord

/-- An identifier names a record only when positive. -/
def UserId.isValid (u : UserId) : Bool := 0 < u.val

def GroupId.isValid (g : GroupId) : Bool := 0 < g.val

instance : ToString UserId := ⟨fun u => toString u.val⟩
instance : ToString GroupId := ⟨fun g => toString g.val⟩
instance : ToString ConversationId := ⟨fun c => toString c.val⟩
instance : ToString MessageId := ⟨fun m => toString m.val⟩
instance : ToString NotificationId := ⟨fun n => toString n.val⟩

theorem UserId.val_inj {a b : UserId} : a.val = b.val ↔ a = b := by
  cases a; cases b; simp

instance : LT UserId := ⟨fun a b => a.val < b.val⟩
instance : LE UserId := ⟨fun a b => a.val ≤ b.val⟩
instance (a b : UserId) : Decidable (a < b) := inferInstanceAs (Decidable (a.val < b.val))
instance (a b : UserId) : Decidable (a ≤ b) := inferInstanceAs (Decidable (a.val ≤ b.val))

/-- Connections are numbered in the order they are made. -/
structure ConnId where
  val : Nat
  deriving DecidableEq, Repr, Hashable, Ord

end Switchboard
