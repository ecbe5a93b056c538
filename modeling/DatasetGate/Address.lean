import DatasetGate.Selector

/-!
# Addresses of repositories

An address column holds addresses of one shape: a scheme, an authority, a delimiter, the path of a
repository, and an extension. Columns of clients take the path from the client's owner and name.
-/

set_option autoImplicit false

namespace DatasetGate

namespace UrlColumn

def isClient : UrlColumn → Bool
  | .csshUrl | .curl => true
  | .sshUrl | .url => false

def ownerColumn (column : UrlColumn) : String :=
  if column.isClient then "cowner" else "owner"

def nameColumn (column : UrlColumn) : String :=
  if column.isClient then "cname" else "name"

end UrlColumn

/-- The shape of an address. -/
structure AddressShape where
  scheme : String
  authority : String
  delimiter : Char
  extension : String
  deriving DecidableEq, Repr

namespace AddressShape

def ssh : AddressShape := ⟨"ssh", "git@github.com", ':', ".git"⟩

def https : AddressShape := ⟨"https", "github.com", '/', ""⟩

def ofColumn : UrlColumn → AddressShape
  | .sshUrl | .csshUrl => ssh
  | .url | .curl => https

def start (shape : AddressShape) : String :=
  shape.scheme ++ "://"

def marker (shape : AddressShape) : String :=
  "//" ++ shape.authority ++ String.singleton shape.delimiter

def address (shape : AddressShape) (path : String) : String :=
  shape.scheme ++ "://" ++ shape.authority ++ String.singleton shape.delimiter ++ path ++
    shape.extension

def startsRight (shape : AddressShape) (text : String) : Bool :=
  shape.start.toList.isPrefixOf text.toList

def contains (part : List Char) : List Char → Bool
  | [] => part.isEmpty
  | c :: rest => part.isPrefixOf (c :: rest) || contains part rest

def marksRight (shape : AddressShape) (text : String) : Bool :=
  contains shape.marker.toList text.toList

end AddressShape
end DatasetGate
