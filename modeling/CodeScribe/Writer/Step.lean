import CodeScribe.Node.Render

/-! Runs of a writer: sequences of steps with scopes, and what can be seen of them. -/
namespace CodeScribe

inductive Step where
  | append (text : String)
  | appendLine (text : String)
  | appendRaw (text : String)
  | appendRawLine (text : String)
  | endLine
  | blankLine
  | trimEnd
  | setClassifier (classify : Classifier)
  | render (node : Node) (tail : Bool)
  /-- Asks for the result that the run would have here. -/
  | finish
  /-- Leaves all open scopes at once and skips the rest of them. -/
  | abort
  | indented (levels : Nat) (steps : List Step)
  | classified (classify : Classifier) (steps : List Step)

inductive Observation where
  | state (w : Writer) (aborted : Bool)
  | result (r : Except LineFault (List Char))

structure Stretch where
  writer : Writer
  seen : List Observation := []
  aborted : Bool := false

namespace Stretch

def plain (w : Writer) : Stretch := { writer := w, seen := [.state w false] }

def andThen (s : Stretch) (next : Writer → Stretch) : Stretch :=
  if s.aborted then s
  else
    let after := next s.writer
    { after with seen := s.seen ++ after.seen }

/-- A scope: seen on entry, then its steps, then on exit unless it is left early.
`leave` restores the writer in either case. -/
def scope (entered : Writer) (steps : Writer → Stretch) (leave : Writer → Writer) : Stretch :=
  let inner := steps entered
  let after := leave inner.writer
  { writer := after
    seen := .state entered false :: inner.seen
      ++ (if inner.aborted then [] else [.state after false])
    aborted := inner.aborted }

end Stretch

mutual

def Step.run : Step → Writer → Stretch
  | .append text, w => .plain (w.append text.toList)
  | .appendLine text, w => .plain (w.appendLine text.toList)
  | .appendRaw text, w => .plain (w.appendRaw text.toList)
  | .appendRawLine text, w => .plain (w.appendRawLine text.toList)
  | .endLine, w => .plain w.endLine
  | .blankLine, w => .plain w.blankLine
  | .trimEnd, w => .plain w.trimEnd
  | .setClassifier classify, w => .plain { w with classify := classify }
  | .render node tail, w => .plain (node.render tail w)
  | .finish, w => { writer := w, seen := [.result w.finish] }
  | .abort, w => { writer := w, aborted := true }
  | .indented levels steps, w =>
    .scope (w.deepen levels) (Step.runAll steps) (·.undeepen levels)
  | .classified classify steps, w =>
    .scope { w with classify := classify } (Step.runAll steps)
      ({ · with classify := w.classify })

def Step.runAll : List Step → Writer → Stretch
  | [], w => { writer := w }
  | step :: rest, w => (step.run w).andThen (Step.runAll rest)

end

/-- A whole run. A step that is left early does not end it. -/
def Step.session : List Step → Writer → Writer × List Observation
  | [], w => (w, [])
  | step :: rest, w =>
    let s := step.run w
    let seen := if s.aborted then s.seen ++ [.state s.writer true] else s.seen
    let (last, more) := session rest s.writer
    (last, seen ++ more)

end CodeScribe
