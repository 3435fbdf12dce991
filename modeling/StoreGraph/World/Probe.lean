import StoreGraph.Bytes
import StoreGraph.Error
import StoreGraph.World.Table

/-! # Probe cells

A probe is an in-memory store that records how it is called and fails where its fault rules say so.
Rules are consulted before a call has any effect.
-/

namespace StoreGraph

/-- The occasions at which a probe consults its rules. -/
inductive ProbeOp where
  | put
  | get
  | del
  | keys
  | close
  | clear
  /-- A key is about to be shown to a visitor. -/
  | visit
  deriving Repr, DecidableEq

/-- A recorded call. -/
inductive Call where
  | put (key value : Bytes)
  | get (key : Bytes)
  | del (key : Bytes)
  | keys
  | close
  | clear
  deriving Repr, DecidableEq

namespace Call

/-- The occasion that a call is. -/
def op : Call → ProbeOp
  | put _ _ => .put
  | get _ => .get
  | del _ => .del
  | keys => .keys
  | close => .close
  | clear => .clear

def key? : Call → Option Bytes
  | put key _ | get key | del key => some key
  | keys | close | clear => none

end Call

/-- A failure that a probe is told to produce. -/
structure FaultRule where
  /-- The occasion at which the rule applies. -/
  op : ProbeOp
  /-- The only key to which it applies, if it is limited to one. -/
  key : Option Bytes := none
  error : Error
  /-- How many further occasions it lets pass. -/
  skip : Nat := 0
  /-- How often it may still produce its failure; without a limit, always. -/
  times : Option Nat := none

namespace FaultRule

/-- Does the rule apply at this occasion? -/
def applies (rule : FaultRule) (op : ProbeOp) (key : Option Bytes) : Bool :=
  decide (rule.op = op) && (rule.key.isNone || rule.key == key)

/-- Consult rules in order. A rule that applies is counted down while it still lets occasions pass,
    is passed over once it is used up, and otherwise is used and decides. -/
def consult (op : ProbeOp) (key : Option Bytes) : List FaultRule → Option Error × List FaultRule
  | [] => (none, [])
  | rule :: rest =>
    let passOn (rule : FaultRule) :=
      let (outcome, rest) := consult op key rest
      (outcome, rule :: rest)
    if rule.applies op key then
      match rule.skip, rule.times with
      | skip + 1, _ => passOn { rule with skip }
      | 0, some 0 => passOn rule
      | 0, some (left + 1) => (some rule.error, { rule with times := some left } :: rest)
      | 0, none => (some rule.error, rule :: rest)
    else passOn rule

end FaultRule

structure Probe where
  entries : SortedMap Bytes Bytes := .empty
  /-- The rules that are consulted, in order. -/
  rules : List FaultRule := []
  /-- The calls made so far, the first one first. -/
  calls : List Call := []

namespace Probe

instance : Inhabited Probe := ⟨{}⟩

def put (p : Probe) (key value : Bytes) : Probe := { p with entries := p.entries.insert key value }

def del (p : Probe) (key : Bytes) : Probe := { p with entries := p.entries.erase key }

def clear (p : Probe) : Probe := { p with entries := .empty }

def record (p : Probe) (call : Call) : Probe := { p with calls := p.calls ++ [call] }

end Probe

end StoreGraph
