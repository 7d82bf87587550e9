import ApiBoilerplate.Bootstrap.LogRetention
import ApiBoilerplate.Http.BodyLogging
import ApiBoilerplate.Http.LogQuery
import ApiBoilerplate.Http.Pipeline
import ApiBoilerplate.Http.TokenLifetime
import ApiBoilerplate.Installer.Removal
import ApiBoilerplate.Installer.Uninstall
import ApiBoilerplate.Jobs.Schedule
import ApiBoilerplate.Queue.Backoff
import ApiBoilerplate.Queue.Deadlock
import ApiBoilerplate.Queue.DequeueCall
import ApiBoilerplate.Queue.DueTime
import ApiBoilerplate.Queue.PendingCount
import ApiBoilerplate.Queue.Routing
import ApiBoilerplate.Queue.Stranding
import ApiBoilerplate.Updater.AllOrNothing
import ApiBoilerplate.Updater.CommandLine
import ApiBoilerplate.Updater.Containment
import ApiBoilerplate.Updater.Convergence
import ApiBoilerplate.Updater.LastCheck
import ApiBoilerplate.Updater.VerifiedInstall
import ApiBoilerplate.Users.Coherence
import ApiBoilerplate.Users.Login
import ApiBoilerplate.Users.Paging
import ApiBoilerplate.Users.Projection
import ApiBoilerplate.Users.Secrecy
import ApiBoilerplate.Ws.Bridge
import ApiBoilerplate.Ws.BrokerView
import ApiBoilerplate.Ws.Confidentiality
import ApiBoilerplate.Ws.ConnectionLimit
import ApiBoilerplate.Ws.Delivery
import ApiBoilerplate.Ws.HeaderAgreement
import ApiBoilerplate.Ws.Heartbeat
import ApiBoilerplate.Ws.SessionCleanup
import ApiBoilerplate.Ws.SessionProtocol
import ApiBoilerplate.Ws.SingleHub
import ApiBoilerplate.Ws.Stats
import ApiBoilerplate.Ws.Subscriptions
import ApiBoilerplate.Ws.TopicBudget
import ApiBoilerplate.Ws.UserTopic
