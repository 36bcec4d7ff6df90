import AvantimePlatform.Jira.InboundLeases
import AvantimePlatform.Knowledge.Leases
import AvantimePlatform.Notifications.Leases

/-!
# The three lease protocols

The inbound events of Jira, the index events of the articles and the notifications are three
tables of leased records, each with its own claim, outcomes and operators.
`leases_obeyed` is the protocol for all of them.
-/

namespace AvantimePlatform

/-- In every history of workers and operators whose claims draw distinct tokens, each of the
three tables obeys the lease protocol. -/
theorem leases_obeyed :
    Jira.inboundWorkers.queue.Obeys Jira.inboundStart
        (fun _ ev => ∀ e, ev = .env e → e.Admissible) Jira.inbound.step ∧
      Knowledge.indexWorkers.queue.Obeys Knowledge.knowledgeStart
        (fun w ev => ∀ e, ev = .env e → e.change.HasNewId w.shared) Knowledge.knowledge.step ∧
      Notifications.notificationWorkers.queue.Obeys Notifications.notificationsStart
        (fun _ ev => ∀ e, ev = .env e → True) Notifications.notifications.step :=
  ⟨Jira.inbound_obeys, Knowledge.knowledge_obeys, Notifications.notifications_obey⟩

end AvantimePlatform
