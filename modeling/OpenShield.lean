import OpenShield.Core.Mutators
import OpenShield.Core.Storage
import OpenShield.Daemon.DeferredVerdicts
import OpenShield.Daemon.ReaderRuns
import OpenShield.Daemon.ReplyRuns
import OpenShield.Daemon.FastStrategy
import OpenShield.Daemon.GroupActions
import OpenShield.Verdict.Inbound
import OpenShield.Daemon.ObserveSession
import OpenShield.Daemon.Provenance
import OpenShield.Verdict.Equivalence
import OpenShield.Verdict.Counters
import OpenShield.Daemon.CrossFamily
import OpenShield.Daemon.LearningQuotas
import OpenShield.Daemon.Caches
import OpenShield.Daemon.RetainedCounters
import OpenShield.Daemon.Scheduling
import OpenShield.Daemon.Waves
import OpenShield.Daemon.ObserverAdmission
import OpenShield.Daemon.OwnerCache
import OpenShield.Tui.RuleForm
import OpenShield.Daemon.Frames
import OpenShield.Daemon.XtablesTamper
import OpenShield.Daemon.XtablesWorlds
import OpenShield.Tui.Groups
import OpenShield.Daemon.Lifecycle
