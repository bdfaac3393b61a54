/-!
# Preview hosts

A `Host` shows documents. It hands out a `Target` for every document it takes in, and forgets the
document when the target is given back. It may refuse documents, and it remembers what it was asked.
-/

namespace SiteBuilder.Preview

/-- What a target is known by at its host. -/
inductive Handle where
  /-- A handle the host handed out, numbered in the order of its mounts. -/
  | issued (serial : Nat)
  /-- A handle from elsewhere. -/
  | unknown (text : String)
  deriving DecidableEq

/-- A document at a host. -/
structure Target where
  /-- What the host knows it by. -/
  handle : Handle
  /-- The template it shows. -/
  template : String
  /-- The render it is from. -/
  generation : Nat
  deriving DecidableEq

/-- What a host was asked. -/
inductive HostCall where
  /-- It took in a document. -/
  | mount (template : String) (generation : Nat)
  /-- It refused a document. -/
  | refuse (template : String) (generation : Nat)
  /-- It was given a target back. -/
  | release (template : String) (generation : Nat)
  deriving DecidableEq

/-- A place to show documents. -/
structure Host where
  /-- The documents it shows, latest first, by the numbers of their handles. -/
  documents : List (Nat × String)
  /-- How many documents it took in. -/
  mounted : Nat
  /-- How many targets it was given back. -/
  released : Nat
  /-- Why it refuses documents at present, if it does. -/
  refusal : Option String
  /-- What it was asked, latest first. -/
  calls : List HostCall
  deriving DecidableEq

namespace Host

/-- A host that shows nothing yet. -/
def empty : Host := ⟨[], 0, 0, none, []⟩

/-- The document of a handle. -/
def document? (host : Host) : Handle → Option String
  | .issued serial => host.documents.lookup serial
  | .unknown _ => none

/-- The number of documents that are shown. -/
def liveCount (host : Host) : Nat := host.documents.length

/-- Take in a document, or say why not. -/
def mount (host : Host) (template : String) (generation : Nat) (document : String) :
    Except String Target × Host :=
  match host.refusal with
  | some reason => (.error reason, { host with calls := .refuse template generation :: host.calls })
  | none =>
    (.ok ⟨.issued host.mounted, template, generation⟩,
      { host with
        documents := (host.mounted, document) :: host.documents
        mounted := host.mounted + 1
        calls := .mount template generation :: host.calls })

/-- Take a target back. One that is not known is only counted. -/
def release (host : Host) (target : Target) : Host :=
  { host with
    documents := host.documents.filter fun entry => Handle.issued entry.1 != target.handle
    released := host.released + 1
    calls := .release target.template target.generation :: host.calls }

/-- Take a target back, if there is one. -/
def releaseAll (host : Host) : Option Target → Host
  | some target => host.release target
  | none => host

end Host

end SiteBuilder.Preview
