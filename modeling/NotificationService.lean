import NotificationService.Domain.Notification
import NotificationService.Domain.Template
import NotificationService.Go.Numeric
import NotificationService.Redis.SortedSet
import NotificationService.Redis.Queue
import NotificationService.Redis.RateLimiter
import NotificationService.Handler.WebSocketHub
import NotificationService.Handler.Pagination
import NotificationService.Service.Store
import NotificationService.Handler.Listing
import NotificationService.Service.Templates
import NotificationService.Service.Shared
import NotificationService.Service.Admission
import NotificationService.Handler.Errors
import NotificationService.Handler.Requests
import NotificationService.Handler.TemplateRoutes
import NotificationService.Handler.Health
import NotificationService.Service.Scheduler
import NotificationService.Worker.Processor
import NotificationService.Worker.RetryLaw
import NotificationService.Provider.Webhook
import NotificationService.System
import NotificationService.Invariants.Table
import NotificationService.Invariants.Ownership
import NotificationService.Invariants.Idempotency
import NotificationService.Invariants.Holding
import NotificationService.Invariants.Pickup
import NotificationService.Invariants.Retry
import NotificationService.Invariants.Delivery
