import FormCheck.Form

/-!
# Screens

Three forms let users register, identify themselves, and ask for a new password.  Turning
to one of them hides the others first and then shows it.  Forms can also be shown and
hidden on their own, so the current form is the first visible one, if there is one.
-/

namespace FormCheck

/-- The forms among which users turn. -/
inductive Screen where
  | registration
  | login
  | forgetPassword
  deriving DecidableEq, Repr

structure Screens where
  registration : Form
  login : Form
  forgetPassword : Form

namespace Screens

def all : List Screen :=
  [.registration, .login, .forgetPassword]

def form (screens : Screens) : Screen → Form
  | .registration => screens.registration
  | .login => screens.login
  | .forgetPassword => screens.forgetPassword

def withForm (screens : Screens) (screen : Screen) (form : Form) : Screens :=
  match screen with
  | .registration => { screens with registration := form }
  | .login => { screens with login := form }
  | .forgetPassword => { screens with forgetPassword := form }

/-- The three forms as they begin. -/
def create (registry : Registry) (recorded : Bool) : Screens where
  registration := .create .registration registry recorded
  login := .create .login registry recorded
  forgetPassword := .create .forgetPassword registry recorded

/-- The first visible screen. -/
def current (screens : Screens) : Except Failure Screen :=
  match all.find? fun screen => (screens.form screen).visible with
  | some screen => .ok screen
  | none => .error .noFormVisible

def setVisible (screens : Screens) (screen : Screen) (shown : Bool) : Step Screens Unit :=
  let changed := (screens.form screen).setVisible shown
  ⟨screens.withForm screen changed.after, changed.drawings, changed.traced⟩

def hideEach (screens : Screens) : List Screen → Step Screens Unit
  | [] => .idle screens ()
  | screen :: rest =>
      let hidden := screens.setVisible screen false
      let others := hidden.after.hideEach rest
      ⟨others.after, hidden.drawings ++ others.drawings, .done ()⟩

def turnTo (screens : Screens) (screen : Screen) : Step Screens Form :=
  let hidden := screens.hideEach (all.filter (· != screen))
  let shown := hidden.after.setVisible screen true
  let form := shown.after.form screen
  ⟨shown.after, hidden.drawings ++ shown.drawings, do
    Journal.write .debug .screens ("Showing form " ++ form.name) [("form", .text form.name)]
    return form⟩

/-- The screens as users first see them. -/
def start (registry : Registry) (recorded : Bool) : Step Screens Form :=
  (create registry recorded).turnTo .login

def perform [Host] (screens : Screens) (screen : Screen) (action : Form.Action) :
    Step Screens Form.Answer :=
  let performed := (screens.form screen).perform action
  ⟨screens.withForm screen performed.after, performed.drawings, performed.traced⟩

end Screens

end FormCheck
