import Bibliotheque.Core.Traversal
import Bibliotheque.Core.Table
import Bibliotheque.Core.Program
import Bibliotheque.Core.Run
import Bibliotheque.Core.Merge
import Bibliotheque.Core.Distinct
import Bibliotheque.Core.Ddl
import Bibliotheque.Core.Archive
import Bibliotheque.Php.DateTime
import Bibliotheque.Php.SlashDate
import Bibliotheque.Php.Value
import Bibliotheque.Entity.ManyToMany
import Bibliotheque.Entity.OneToMany
import Bibliotheque.Entity.OneToOne
import Bibliotheque.Entity.ObjectGraph
import Bibliotheque.Store.Schema
import Bibliotheque.Store.Migrations
import Bibliotheque.Store.Constraints
import Bibliotheque.Store.Removal
import Bibliotheque.Store.Walk
import Bibliotheque.Store.Session
import Bibliotheque.Store.Flush
import Bibliotheque.Store.Orphans
import Bibliotheque.Store.Moving
import Bibliotheque.Store.Completion
import Bibliotheque.Api.Catalogue
import Bibliotheque.Api.Circulation
import Bibliotheque.Api.Adherents
import Bibliotheque.Api.Router
import Bibliotheque.Api.Atomicity
import Bibliotheque.Api.Deletion
import Bibliotheque.Api.BookCompleteness
import Bibliotheque.Api.Passwords
import Bibliotheque.Api.LivreUpdate
import Bibliotheque.Api.LivreEffects
import Bibliotheque.Api.Interleaving
import Bibliotheque.Api.AuteurRequests
import Bibliotheque.Api.CirculationRequests
import Bibliotheque.Api.Booking
import Bibliotheque.Api.AdherentRequests
import Bibliotheque.Api.ValidBodies
import Bibliotheque.Api.LinkRoutes
import Bibliotheque.Api.Dates
import Bibliotheque.Api.DateRefusal
import Bibliotheque.Api.Listing
import Bibliotheque.Api.LivreCreation
import Bibliotheque.Api.RequiredFields
import Bibliotheque.Api.References
import Bibliotheque.Api.Reading
import Bibliotheque.Api.GetPut
import Bibliotheque.Api.CategorieRequests
import Bibliotheque.Api.Fonds
import Bibliotheque.Api.Refinement
import Bibliotheque.Api.StaleReads
import Bibliotheque.Api.Commandes
import Bibliotheque.Api.AuteurSteps
import Bibliotheque.Api.Serial
import Bibliotheque.Api.SerialRuns
import Bibliotheque.Api.Modifications
import Bibliotheque.Api.Concurrence
import Bibliotheque.Api.ConcurrentRuns
import Bibliotheque.Api.Colonnes
import Bibliotheque.Api.Plans
import Bibliotheque.Api.Repetition
import Bibliotheque.Api.Independance
import Bibliotheque.Front.Lists
import Bibliotheque.Front.Requests
import Bibliotheque.Front.Paging
import Bibliotheque.Front.Languages
import Bibliotheque.Front.Detail
import Bibliotheque.Front.Roles
