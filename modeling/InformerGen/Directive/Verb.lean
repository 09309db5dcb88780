/-! The verbs of a generated client. -/
namespace InformerGen

inductive Verb where
  | create
  | update
  | updateStatus
  | delete
  | deleteCollection
  | get
  | list
  | watch
  | patch
deriving DecidableEq, Repr

namespace Verb

def all : List Verb :=
  [create,update,updateStatus,delete,deleteCollection,get,list,watch,patch]

def readOnly : List Verb := [get,list,watch]

def text : Verb → String
  | create => "create"
  | update => "update"
  | updateStatus => "updateStatus"
  | delete => "delete"
  | deleteCollection => "deleteCollection"
  | get => "get"
  | list => "list"
  | watch => "watch"
  | patch => "patch"

def ofText? (text : String) : Option Verb := all.find? (·.text == text)

/-- The verbs of a list, each once and in canonical order. -/
def canonical (verbs : List Verb) : List Verb := all.filter fun verb => verbs.contains verb

end Verb

end InformerGen
