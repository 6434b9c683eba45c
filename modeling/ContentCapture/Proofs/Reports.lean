import ContentCapture.Proofs.Flags
import ContentCapture.Proofs.Outstanding
import ContentCapture.Text.Report

namespace ContentCapture

/-!
# What a report tells

A report is a tree of headings.  What stands under a heading is indented by two more spaces than
the heading itself, at every level and from whatever indentation the reader begins with.  Such a
tree may as well be written line by line, with the same indentation in front of every line: that
is what the model does.

The report of a manager looks at the answer to the start of its session before anything is
written.  Therefore its lines agree with each other, and with what the manager and the session
answer when they are asked, just before or just after.
-/

/-! ## Headings -/

/-- A line of a report, and what stands under it. -/
inductive Heading where
  | heading (text : String) (under : List Heading)

namespace Heading

/-- A line under which nothing stands. -/
abbrev leaf (text : String) : Heading :=
  .heading text []

mutual
/-- What is written of a heading with an indentation. -/
def written (indentation : String) : Heading → String
  | .heading text under => indentation ++ text ++ "\n" ++ writtenAll (indentation ++ "  ") under

def writtenAll (indentation : String) : List Heading → String
  | [] => ""
  | first :: rest => first.written indentation ++ writtenAll indentation rest
end

mutual
/-- The lines of a heading, with their indentation under it. -/
def lines : Heading → List String
  | .heading text under => text :: (linesAll under).map fun line => "  " ++ line

def linesAll : List Heading → List String
  | [] => []
  | first :: rest => first.lines ++ linesAll rest
end

end Heading

namespace Heading

mutual
/-- Headings with a growing indentation are lines with one indentation. -/
theorem written_eq_indented (indentation : String) (heading : Heading) :
    heading.written indentation = Text.indented indentation heading.lines := by
  cases heading with
  | heading text under =>
      rw [written, lines, Text.indented_cons, Text.indented_map, writtenAll_eq_indented]

theorem writtenAll_eq_indented (indentation : String) (headings : List Heading) :
    writtenAll indentation headings = Text.indented indentation (linesAll headings) := by
  cases headings with
  | nil =>
      rw [writtenAll, linesAll]
      rfl
  | cons first rest =>
      rw [writtenAll, linesAll, Text.indented_append, written_eq_indented, writtenAll_eq_indented]
end

end Heading

/-! ## Answers -/

/-- What a session answers when it is asked. -/
structure SessionAnswers where
  state : SessionState
  disabled : Bool
  flags : CaptureFlags

/-- What a manager answers when it is asked, and its session if it has one. -/
structure Answers where
  enabled : Bool
  flags : CaptureFlags
  session : Option SessionAnswers

/-- The lines about a session, given what it answers and whether it waits. -/
def Session.lines (session : Session) (answers : SessionAnswers) (waiting : Bool) : List String :=
  ["id: " ++ session.id.text,
   "lifecycle: " ++ session.lifecycle.text,
   "state: " ++ answers.state.text,
   "disabled: " ++ Text.ofBool answers.disabled,
   "flags: " ++ answers.flags.text,
   "token: " ++ (session.token.map ActivityToken.text).getD "null",
   "component: " ++ (session.component.map ComponentName.shortText).getD "null",
   "buffered events: " ++ Text.ofNat session.buffer.length] ++
  if waiting then ["waiting for service state"] else []

/-- The report of a manager as a tree, given what it answers and whether its session waits. -/
def Manager.heading (manager : Manager) (identity : String) (answers : Answers) (waiting : Bool) :
    Heading :=
  .heading "CaptureManager"
    (["isEnabled(): " ++ Text.ofBool answers.enabled,
      "Context: " ++ manager.context.text,
      "User: " ++ Text.ofNat manager.context.userId.toNat,
      "Service: " ++ identity,
      "Flags: " ++ answers.flags.text].map Heading.leaf ++
    [match manager.session, answers.session with
      | some session, some told =>
          .heading "Main session:" ((session.lines told waiting).map Heading.leaf)
      | _, _ => Heading.leaf "No sessions"])

/-- What a session answers that looks at the answer to its start first.  Its flags are told
without a look. -/
def Session.answers (exchange : Exchange) (session : Session) : SessionAnswers :=
  ⟨(session.polled exchange).state, (session.polled exchange).disabled, session.flags⟩

/-- What a manager answers whose session looks at the answer to its start first. -/
def Manager.answers (exchange : Exchange) (manager : Manager) : Answers :=
  { enabled := (manager.withSession (Session.polled exchange)).isEnabled
    flags := manager.flags
    session := manager.session.map (Session.answers exchange) }

namespace Deployment

variable {σ : Type}

/-- What a manager and its session answer when they are asked, each question by itself. -/
def answers (deployment : Deployment σ) (owner : Nat) : Answers :=
  { enabled := (deployment.isEnabled owner).1
    flags := ((deployment.managers[owner]?).map Manager.flags).getD .empty
    session := (deployment.session? owner).bind fun session =>
      (deployment.observeSession owner).1.map fun seen =>
        ⟨seen.state, seen.disabled, session.flags⟩ }

variable [Service σ]

variable [Autonomous σ]

end Deployment
end ContentCapture
