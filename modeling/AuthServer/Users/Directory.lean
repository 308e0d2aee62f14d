import AuthServer.Problem
import AuthServer.Users.Email
import AuthServer.Users.User

/-!
The user directory: accounts under their ids, found by id or by e-mail and password. A password is
kept in a form that verifies exactly that password, so that here it stands for itself.
-/

namespace AuthServer

inductive DirectoryError where
  | duplicateEmail
  | notFound
  | invalidCredentials
  | unavailable (reason : String)
deriving DecidableEq, Repr

namespace DirectoryError

def message : DirectoryError → String
  | .duplicateEmail => "email already in use"
  | .notFound => "user not found"
  | .invalidCredentials => "invalid credentials"
  | .unavailable reason => s!"user directory unavailable: {reason}"

def problem (error : DirectoryError) : Problem :=
  match error with
  | .duplicateEmail => .conflict error.message
  | .notFound => .notFound error.message
  | .invalidCredentials => .unauthenticated .invalidCredentials
  | .unavailable _ => .internal error.message

end DirectoryError

structure Account where
  user : User
  password : String
deriving DecidableEq

structure Directory where
  accounts : List (String × Account)
deriving DecidableEq

namespace Directory

def empty : Directory := ⟨[]⟩

def account? (directory : Directory) (id : String) : Option Account :=
  directory.accounts.lookup id

def accountOf? (directory : Directory) (email : String) : Option Account :=
  (directory.accounts.map Prod.snd).find? (·.user.email == email)

def insert (directory : Directory) (id : String) (account : Account) : Directory :=
  ⟨(id, account) :: directory.accounts.filter (·.1 != id)⟩

def find (directory : Directory) (id : String) : Except DirectoryError User :=
  match directory.account? id with
  | some account => .ok account.user
  | none => .error .notFound

/-- The identity that an e-mail address and a password belong to. An unknown address and a wrong
password are refused alike. -/
def authenticate (directory : Directory) (email password : String) :
    Except DirectoryError Principal :=
  match directory.accountOf? (Email.normalize email) with
  | some account =>
      if account.password = password then .ok account.user.principal
      else .error .invalidCredentials
  | none => .error .invalidCredentials

def register (directory : Directory) (new : NewUser) (id : String) (now : Instant) :
    Except DirectoryError (User × Directory) :=
  let email := Email.normalize new.email
  match directory.accountOf? email with
  | some _ => .error .duplicateEmail
  | none =>
      let user : User := ⟨id, new.name, email, new.roles, .ofInstant now⟩
      .ok (user, directory.insert id ⟨user, new.password⟩)

end Directory

end AuthServer
