/-!
# Column selectors

Each kind of check accepts the columns of one family only. A family lists its columns, and a name
outside the list is refused with the list in the message.
-/

set_option autoImplicit false

namespace DatasetGate

structure InvalidSelector where
  kind : String
  value : String
  allowed : String
  deriving DecidableEq, Repr

def InvalidSelector.message (refusal : InvalidSelector) : String :=
  "invalid " ++ refusal.kind ++ " '" ++ refusal.value ++ "' (expected one of: " ++
    refusal.allowed ++ ")"

/-- A family of columns: its members in order, their names, and what messages call one of them. -/
class Family (α : Type) where
  all : List α
  columnName : α → String
  kind : String

namespace Family

def allowed (α : Type) [Family α] : String :=
  ", ".intercalate ((all : List α).map columnName)

def find? (α : Type) [Family α] (name : String) : Option α :=
  (all : List α).find? fun column => columnName column = name

def select (α : Type) [Family α] (name : String) : Except InvalidSelector α :=
  match find? α name with
  | some column => .ok column
  | none => .error ⟨kind α, name, allowed α⟩

end Family

inductive UrlColumn where
  | sshUrl
  | url
  | csshUrl
  | curl
  deriving DecidableEq, Repr

def UrlColumn.name : UrlColumn → String
  | .sshUrl => "sshUrl"
  | .url => "url"
  | .csshUrl => "csshUrl"
  | .curl => "curl"

instance : Family UrlColumn where
  all := [.sshUrl, .url, .csshUrl, .curl]
  columnName := UrlColumn.name
  kind := "URL column"

inductive DateColumn where
  | createdAt
  | pushedAt
  | publishedAt
  deriving DecidableEq, Repr

def DateColumn.name : DateColumn → String
  | .createdAt => "createdAt"
  | .pushedAt => "pushedAt"
  | .publishedAt => "publishedAt"

instance : Family DateColumn where
  all := [.createdAt, .pushedAt, .publishedAt]
  columnName := DateColumn.name
  kind := "date column"

inductive NumericColumn where
  | stars
  | packages
  | clients
  | relevantClients
  | cstars
  | files
  | number
  deriving DecidableEq, Repr

def NumericColumn.name : NumericColumn → String
  | .stars => "stars"
  | .packages => "packages"
  | .clients => "clients"
  | .relevantClients => "relevantClients"
  | .cstars => "cstars"
  | .files => "files"
  | .number => "number"

instance : Family NumericColumn where
  all := [.stars, .packages, .clients, .relevantClients, .cstars, .files, .number]
  columnName := NumericColumn.name
  kind := "numeric column"

inductive RepoColumn where
  | baseRepo
  | headRepo
  deriving DecidableEq, Repr

def RepoColumn.name : RepoColumn → String
  | .baseRepo => "baseRepo"
  | .headRepo => "headRepo"

instance : Family RepoColumn where
  all := [.baseRepo, .headRepo]
  columnName := RepoColumn.name
  kind := "repository column"

end DatasetGate
