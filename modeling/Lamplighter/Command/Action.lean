import Lamplighter.Command.Effect

/-!
# Actions: sentences compiled

`compile` turns the tokens of a sentence into an action: its verb with the parameters, the targets,
and the key under which snapshots of these targets are kept.  An adverb may only stand in front of
a verb that takes one.  Of several errors the first in the order of the sentence's parts is
reported: the verb, the adverb, the clause.
-/

namespace Lamplighter

structure Action where
  command : String
  effect : Effect
  targets : Targets
  deriving DecidableEq, Repr, Inhabited

namespace Action

def verb (action : Action) : Verb :=
  action.effect.verb

/-- the targets as they were at first, which the working set of a run is copied from -/
def wanted (action : Action) : Targets :=
  action.targets.copy

/-- the key of the targets, fixed before any of them is matched -/
def key (action : Action) : String :=
  action.wanted.key

end Action

/-- the action of a verb at the given place in the tokens -/
def compileVerb (tokens : List String) (settings : Settings) (cursor : Nat) (verb : Verb) :
    Except CommandError Action := do
  let effect ← Effect.read verb tokens settings
  return { command := " ".intercalate tokens, effect
           targets := readTargets tokens (cursor + 1) verb.stopper }

/-- the action of tokens none of which is empty -/
def compileTokens (tokens : List String) (settings : Settings) : Except CommandError Action :=
  match tokens, readAdverb? tokens with
  | [], _ => .error .empty
  | [_], some _ => .error (.missingVerb tokens)
  | _ :: word :: _, some adverb =>
    match Verb.ofWord? (lowerToken word) with
    | none => .error (.unknownVerb word tokens)
    | some verb =>
      if verb.takesAdverb then compileVerb tokens settings 1 verb
      else .error (.adverbNotAllowed adverb verb.word)
  | word :: _, none =>
    match Verb.ofWord? (lowerToken word) with
    | none => .error (.unknownVerb word tokens)
    | some verb => compileVerb tokens settings 0 verb

def compile (tokens : List String) (settings : Settings) : Except CommandError Action :=
  compileTokens (tokens.filter fun t => !t.isEmpty) settings

end Lamplighter
