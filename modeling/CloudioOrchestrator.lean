import CloudioOrchestrator.Interaction.Pool
import CloudioOrchestrator.Interaction.Tracing
import CloudioOrchestrator.Interaction.Playing
import CloudioOrchestrator.Escalations
import CloudioOrchestrator.Interaction.Handling
import CloudioOrchestrator.ServiceNow
import CloudioOrchestrator.PythonJson
import CloudioOrchestrator.Payloads
import CloudioOrchestrator.Rollback
import CloudioOrchestrator.System
import CloudioOrchestrator.Ledger
import CloudioOrchestrator.Account
import CloudioOrchestrator.Narrative
import CloudioOrchestrator.Keys
import CloudioOrchestrator.PlanOrder
import CloudioOrchestrator.Verdicts
import CloudioOrchestrator.Releases
import CloudioOrchestrator.Solo
import CloudioOrchestrator.Totality
import CloudioOrchestrator.Decisions
import CloudioOrchestrator.Interaction.Succession
import CloudioOrchestrator.Journal
import CloudioOrchestrator.Incidents
import CloudioOrchestrator.Deletions
import CloudioOrchestrator.Ownership
import CloudioOrchestrator.Occupancy
import CloudioOrchestrator.EngineRuns
import CloudioOrchestrator.Attended
import CloudioOrchestrator.Preparation
import CloudioOrchestrator.Equipment
import CloudioOrchestrator.Airflow
import CloudioOrchestrator.Course
import CloudioOrchestrator.Attempts
import CloudioOrchestrator.ExceptionTable
import CloudioOrchestrator.Finality
import CloudioOrchestrator.Queue
import CloudioOrchestrator.Store
import CloudioOrchestrator.Services
import CloudioOrchestrator.Relational.Distinct
import CloudioOrchestrator.Lookups
import CloudioOrchestrator.Attribution
import CloudioOrchestrator.Closeup
import CloudioOrchestrator.Counting.Budget
import CloudioOrchestrator.Retries
import CloudioOrchestrator.Counting.Chronicle
import CloudioOrchestrator.Dated
import CloudioOrchestrator.StepLog
import CloudioOrchestrator.Interaction.Concluding
import CloudioOrchestrator.Conclusion
import CloudioOrchestrator.Fleet
import CloudioOrchestrator.Queries.Encoded
import CloudioOrchestrator.Desk
import CloudioOrchestrator.References
import CloudioOrchestrator.Ordering
import CloudioOrchestrator.Queries.Targets
import CloudioOrchestrator.Addresses
import CloudioOrchestrator.Interaction.Relating
import CloudioOrchestrator.Interaction.Coupling
import CloudioOrchestrator.Twins
import CloudioOrchestrator.Sides
import CloudioOrchestrator.Groups
import CloudioOrchestrator.Setbacks
import CloudioOrchestrator.Backoffs
import CloudioOrchestrator.Patience
import CloudioOrchestrator.Registry
import CloudioOrchestrator.Api
import CloudioOrchestrator.Interaction.Following
import CloudioOrchestrator.Gateway
import CloudioOrchestrator.Visits
import CloudioOrchestrator.Keyless
import CloudioOrchestrator.Interaction.Fairness
import CloudioOrchestrator.Daemon
import CloudioOrchestrator.Overtaking
import CloudioOrchestrator.Documents.Reading
import CloudioOrchestrator.Persistence
import CloudioOrchestrator.Interaction.Refining
import CloudioOrchestrator.Stored
