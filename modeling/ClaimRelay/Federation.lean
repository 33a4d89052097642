import ClaimRelay.Network.Schedule

/-! Several networks, each with a bus of its own.  They share the clock and the files, and nothing
else. -/

namespace ClaimRelay

/-- Networks that share the clock and the files. -/
structure Federation where
  now : Nat := 0
  files : FileSystem
  /-- How many more subscriptions of managers will be refused. -/
  refusing : Nat := 0
  /-- The notices given so far, the latest first. -/
  notices : List Notice := []
  networks : List Network := []

namespace Federation

/-- Something that the network at place `k` does, which may take time. -/
def onNetwork {α : Type} (k : Nat) (f : Network → α × Network) (fed : Federation) :
    Option α × Federation :=
  match fed.networks[k]? with
  | none => (none, fed)
  | some net =>
    let around := { net.around with
      now := fed.now, files := fed.files, refusing := fed.refusing, notices := fed.notices }
    let (result, net) := f { net with around }
    (some result, { fed with
      now := net.around.now
      files := net.around.files
      refusing := net.around.refusing
      notices := net.around.notices
      networks := fed.networks.set k net })

/-- Lets the network at place `k` go on to `target`. -/
def advanceNetwork (target : Nat) (fed : Federation) (k : Nat) : Federation :=
  match fed.networks[k]? with
  | none => fed
  | some net =>
    let start := net.around.now
    let ahead := fed.now
    let (_, fed) := { fed with now := start }.onNetwork k fun net => ((), net.advanceTo target)
    { fed with now := max ahead target }

/-- Lets every network go on to `target`. -/
def advanceTo (target : Nat) (fed : Federation) : Federation :=
  (List.range fed.networks.length).foldl (advanceNetwork target) fed

/-- Something that the network at place `k` does, after which all networks have the same time. -/
def perform {α : Type} (k : Nat) (f : Network → α × Network) (fed : Federation) :
    Option α × Federation :=
  let (result, fed) := fed.onNetwork k f
  (result, fed.advanceTo fed.now)

end Federation

end ClaimRelay
