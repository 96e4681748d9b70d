import RunnerFleet.Text

/-!
# Faults of the outside

The forge's server, the container engine and everything else outside may fail in
ways of their own.  A fault says where the failure was reported, under which
title, and what the report reads.

The engine is asked over the same transport as the forge, so an answer of the
engine that reports a failure counts as a fault of both.
-/

namespace RunnerFleet

/-- Where a fault was reported. -/
inductive FaultOrigin where
  /-- By the container engine, without an answer. -/
  | engine
  /-- By an answer of the container engine. -/
  | engineAnswer
  /-- By the transport below the forge. -/
  | transport
  /-- Somewhere else. -/
  | elsewhere
  deriving DecidableEq, Repr

namespace FaultOrigin

/-- Whether a fault counts as one of the container engine. -/
def isEngine : FaultOrigin → Bool
  | .engine | .engineAnswer => true
  | .transport | .elsewhere => false

/-- Whether a fault counts as one of the transport. -/
def isTransport : FaultOrigin → Bool
  | .transport | .engineAnswer => true
  | .engine | .elsewhere => false

end FaultOrigin

/-- A failure of something outside the service. -/
structure Fault where
  origin : FaultOrigin
  title : String
  message : Text
  deriving DecidableEq, Repr

end RunnerFleet
