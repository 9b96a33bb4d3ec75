import SourceAtlas.Capability
import SourceAtlas.Json.Value

/-! Assistants: optional services that rank, summarise and describe, and how they are asked. -/

namespace SourceAtlas

/-- How getting ready ends; it may never end. -/
inductive Readiness where
  | ready
  | failed
  | endless
  deriving DecidableEq

/-- A piece of text to be summarised; without a path or a content it cannot be sent. -/
structure Passage where
  path : Option String
  content : Option String

/-- A service that answers questions about code, with the state it keeps; an
answer that fails is none. -/
structure Assistant (σ : Type) where
  prepare : σ → Readiness × σ
  isAvailable : σ → Bool
  rank : List String → String → σ → Option Json × σ
  summarize : List Passage → String → σ → Option Json × σ
  generate : String → Int → σ → Option Json × σ
  close : σ → σ

/-- An assistant that may be missing, its state, and the time that it may take to get ready. -/
structure Advisor (σ : Type) where
  handle : Capability Unit (Assistant σ)
  state : σ
  /-- The limit in seconds; without one it may take any time. -/
  timeLimit : Option Binary64

namespace Advisor

variable {σ α : Type}

/-- Whether there is any time to get ready. -/
def hasTime (advisor : Advisor σ) : Bool :=
  -- A limit of zero or less leaves none, and one that is no number leaves any.
  advisor.timeLimit.all fun limit => !limit.le .zero

/-- Asks the assistant once it is ready; nothing is found when it is missing,
late, unavailable or fails. -/
def ask (advisor : Advisor σ) (question : Assistant σ → σ → Option α × σ) : Option α × Advisor σ :=
  -- The assistant is made on the first question, if it can be made at all.
  let (assistant, handle) := advisor.handle.get
  let advisor := { advisor with handle }
  match assistant with
  | none => (none, advisor)
  | some assistant =>
    if advisor.hasTime then
      match assistant.prepare advisor.state with
      -- One that is ready may still have found that it has no server.
      | (.ready, state) =>
        if assistant.isAvailable state then
          let (found, state) := question assistant state
          (found, { advisor with state })
        else (none, { advisor with state })
      -- Whatever getting ready has changed is kept, also when it failed.
      | (_, state) => (none, { advisor with state })
    else (none, advisor)

/-- Whether the assistant can be asked. -/
def isAvailable (advisor : Advisor σ) : Bool × Advisor σ :=
  -- Whoever gets as far as to be asked is available.
  let (found, advisor) := advisor.ask fun _ state => (some (), state)
  (found.isSome, advisor)

/-- Releases what the assistant holds; one that was never made is not made for that. -/
def close (advisor : Advisor σ) : Advisor σ :=
  -- What making it gave is looked at, but nothing is made here.
  match advisor.handle.value? with
  | none => advisor
  | some assistant => { advisor with state := assistant.close advisor.state }

end Advisor

end SourceAtlas
